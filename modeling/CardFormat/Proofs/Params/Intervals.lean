/-
This file sorts the capacities into intervals. A capacity that is accepted lies in one of
them, and with the wishes for FAT32 and for large clusters the interval decides how the
card is divided; a capacity that is too large lies in none.
-/

import CardFormat.Params.Plan
import Mathlib.Data.List.Basic

namespace CardFormat

/-- The intervals of capacities, with the choices that are usual in each. -/
def profileIntervals : List (Nat × Profile) :=
  [(0, ⟨2 ^ 14, .fat12, 16, 16⟩),
    (2 ^ 14, ⟨2 ^ 17, .fat12, 32, 32⟩),
    (2 ^ 17, ⟨2 ^ 19, .fat16, 32, 64⟩),
    (2 ^ 19, ⟨2 ^ 21, .fat16, 32, 128⟩),
    (2 ^ 21, ⟨2 ^ 22, .fat16, 64, 128⟩),
    (2 ^ 22, ⟨2 ^ 26, .fat32, 64, 8192⟩),
    (2 ^ 26, ⟨2 ^ 28, .exFat, 256, 32768⟩),
    (2 ^ 28, ⟨2 ^ 30, .exFat, 512, 65536⟩),
    (2 ^ 30, ⟨2 ^ 32, .exFat, 1024, 131072⟩)]

/-- Each interval begins where the one before it ends. -/
def Adjoining : Nat → List (Nat × Profile) → Prop
  | _, [] => True
  | lower, row :: rest => row.1 = lower ∧ Adjoining row.2.capacity rest

/-- Of adjoining intervals, the first that does not end below a capacity contains it. -/
theorem Adjoining.find? {sectors lower : Nat} {rows : List (Nat × Profile)}
    (adjoining : Adjoining lower rows) (above : lower < sectors)
    (below : ∃ row ∈ rows, sectors ≤ row.2.capacity) :
    ∃ row ∈ rows, (rows.map Prod.snd).find? (fun profile => sectors ≤ profile.capacity) =
      some row.2 ∧ row.1 < sectors ∧ sectors ≤ row.2.capacity := by
  induction rows generalizing lower with
  | nil =>
    obtain ⟨row, member, -⟩ := below
    cases member
  | cons head rest inductionHypothesis =>
    obtain ⟨start, others⟩ := adjoining
    by_cases inside : sectors ≤ head.2.capacity
    · refine ⟨head, List.mem_cons_self, ?_, by omega, inside⟩
      rw [List.map_cons, List.find?_cons_of_pos (by simpa using inside)]
    · obtain ⟨row, member, found, within⟩ := inductionHypothesis others (by omega) (by
        obtain ⟨row, member, le⟩ := below
        rcases List.mem_cons.1 member with rfl | later
        · exact absurd le inside
        · exact ⟨row, later, le⟩)
      refine ⟨row, List.mem_cons_of_mem _ member, ?_, within⟩
      rw [List.map_cons, List.find?_cons_of_neg (by simpa using inside), found]

/-- A capacity that is not too large lies in one of the intervals. -/
theorem profileFor_eq_some {sectors : Nat} (positive : 0 < sectors) (most : sectors ≤ 2 ^ 32) :
    ∃ row ∈ profileIntervals, profileFor sectors = some row.2 ∧ row.1 < sectors ∧
      sectors ≤ row.2.capacity :=
  Adjoining.find?
    (show Adjoining 0 profileIntervals by simp only [profileIntervals, Adjoining, and_self]) positive
    ⟨(2 ^ 30, ⟨2 ^ 32, .exFat, 1024, 131072⟩), by decide, most⟩

/-- A larger capacity lies in none. -/
theorem profileFor_eq_none {sectors : Nat} (large : 2 ^ 32 < sectors) :
    profileFor sectors = none := by
  rw [profileFor, List.find?_eq_none]
  intro profile member
  have least : profile.capacity ≤ 2 ^ 32 :=
    (by decide : ∀ profile ∈ profiles, profile.capacity ≤ 2 ^ 32) profile member
  simp only [decide_eq_true_eq]
  omega

/-- How a card with so many sectors is divided: as usual, or for FAT32 where exFAT would be
usual. Then either the clusters are limited and keep their erase block, or the sectors are
enlarged so far that the erase block has 16384 of them. -/
inductive Divided (sectors : Nat) : Division → Prop where
  | smallest (low : 128 ≤ sectors) (high : sectors ≤ 2 ^ 14) :
    Divided sectors ⟨sectors, 512, 16, 16, .fat12, []⟩
  | small (low : 2 ^ 14 < sectors) (high : sectors ≤ 2 ^ 17) :
    Divided sectors ⟨sectors, 512, 32, 32, .fat12, []⟩
  | quarterGibibyte (low : 2 ^ 17 < sectors) (high : sectors ≤ 2 ^ 19) :
    Divided sectors ⟨sectors, 512, 32, 64, .fat16, []⟩
  | oneGibibyte (low : 2 ^ 19 < sectors) (high : sectors ≤ 2 ^ 21) :
    Divided sectors ⟨sectors, 512, 32, 128, .fat16, []⟩
  | twoGibibytes (low : 2 ^ 21 < sectors) (high : sectors ≤ 2 ^ 22) :
    Divided sectors ⟨sectors, 512, 64, 128, .fat16, []⟩
  | large (low : 2 ^ 22 < sectors) (high : sectors ≤ 2 ^ 26) :
    Divided sectors ⟨sectors, 512, 64, 8192, .fat32, []⟩
  | limited (low : 2 ^ 26 < sectors) (high : sectors ≤ 2 ^ 32) {alignment : Nat}
    (unit : alignment ∈ [32768, 65536, 131072]) :
    Divided sectors ⟨sectors, 512, 128, alignment, .fat32, [.clustersLimited]⟩
  | enlarged {ratio : Nat} (power : ratio ∈ [2, 4, 8]) (low : 2 ^ 25 * ratio ≤ sectors)
    (high : sectors ≤ 2 ^ 32) (warnings : List Warning) :
    Divided sectors ⟨sectors / ratio, 512 * ratio, 128, 16384, .fat32, warnings⟩
  | huge {cluster : Nat} (power : cluster ∈ [256, 512, 1024]) (low : 2 ^ 18 * cluster < sectors)
    (high : sectors ≤ 4096 * (cluster * cluster)) :
    Divided sectors ⟨sectors, 512, cluster, 128 * cluster, .exFat, []⟩

theorem Division.forCapacity_eq_ok {sectors : Nat} (low : leastSectors ≤ sectors)
    (high : sectors ≤ 2 ^ 32) (forceFat32 bigClusters : Bool) :
    ∃ division, Division.forCapacity sectors forceFat32 bigClusters = .ok division ∧
      Divided sectors division := by
  have positive : 0 < sectors := Nat.lt_of_lt_of_le (by decide) low
  obtain ⟨⟨lower, profile⟩, member, found, above, below⟩ := profileFor_eq_some positive high
  rw [Division.forCapacity, if_neg (by omega), if_neg (by omega), found]
  simp only at above below ⊢
  simp only [profileIntervals, List.mem_cons, Prod.mk.injEq, List.not_mem_nil, or_false] at member
  rcases member with ⟨rfl, rfl⟩ | ⟨rfl, rfl⟩ | ⟨rfl, rfl⟩ | ⟨rfl, rfl⟩ | ⟨rfl, rfl⟩ | ⟨rfl, rfl⟩ |
    ⟨rfl, rfl⟩ | ⟨rfl, rfl⟩ | ⟨rfl, rfl⟩
  · exact ⟨_, by cases forceFat32 <;> rfl, .smallest low below⟩
  · exact ⟨_, by cases forceFat32 <;> rfl, .small above below⟩
  · exact ⟨_, by cases forceFat32 <;> rfl, .quarterGibibyte above below⟩
  · exact ⟨_, by cases forceFat32 <;> rfl, .oneGibibyte above below⟩
  · exact ⟨_, by cases forceFat32 <;> rfl, .twoGibibytes above below⟩
  · exact ⟨_, by cases forceFat32 <;> rfl, .large above below⟩
  all_goals
    simp only at below
    cases forceFat32 with
    | false =>
      refine ⟨_, rfl, .huge ?_ ?_ ?_⟩
      · decide
      · simp only
        omega
      · simp only
        omega
    | true =>
      cases bigClusters with
      | false => exact ⟨_, rfl, .limited (by omega) high (by decide)⟩
      | true =>
        refine ⟨_, rfl, .enlarged ?_ ?_ high _⟩
        · decide
        · simp only
          omega

end CardFormat
