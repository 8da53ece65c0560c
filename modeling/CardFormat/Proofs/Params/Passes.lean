/-
This file counts the passes of the search for a FAT size. With a fixed root directory two
passes are enough, whatever the task: the answer of two is the answer of any more. With
FAT32, once the first pass finds an area, every later one does too, and the size that is
needed does not fall while the size that is tried does; so the search cannot step over the
size it looks for, and ends after as many passes as the two are apart in the first one.
Numbers that leave their word end the search early; in a regular task they do not occur.
-/

import CardFormat.Proofs.Params.Areas

namespace CardFormat.FatTask

variable {task : FatTask}

/-- The search begins with the first FAT size, which in a regular task is far from filling a
machine word. -/
theorem Sized.first_le (sized : task.Sized) {first : Nat}
    (initial : task.firstFatSectors = .ok first) (regular : task.Regular) : first ≤ 2 ^ 61 := by
  have equal := sized.firstFatSectors_endsAs.expected_eq (Attempt.lift_eq_ok_iff.2 initial)
  cases equal
  exact regular.firstSize_le

/-- The FATs of every area need at least one sector. -/
theorem neededFrom_pos (task : FatTask) (sized : task.Sized) (dataStart : Nat) :
    0 < task.neededFrom dataStart := by
  have sectorBits : 0 < task.bytesPerSector * 8 := Nat.mul_pos sized.sector_pos (by decide)
  have entries : 0 < (task.clustersFrom dataStart + 2) * task.entryBits :=
    Nat.mul_pos (by omega) sized.bits_pos
  rw [neededFrom, tableSectors]
  exact Nat.div_pos (by omega) sectorBits

/-! ### A fixed root directory -/

/-- A fixed root directory takes no more sectors than bytes. -/
theorem rootDirectorySectors_fixed {bytesPerSector : Nat} (positive : 0 < bytesPerSector) :
    ∃ rootSectors, rootDirectorySectors fixedRootEntries bytesPerSector = .ok rootSectors ∧
      rootSectors ≤ fixedRootEntries * directoryEntryBytes := by
  refine ⟨_, Checked.ceilDivide_of_pos positive, ?_⟩
  rw [← Nat.lt_succ_iff, Nat.div_lt_iff_lt_mul positive, fixedRootEntries, directoryEntryBytes]
  omega

/-- More passes than are enough give the same answer. -/
theorem settleFixedRoot_add (aligned : 0 < task.alignment) {rootSectors passes fatSectors : Nat}
    (enough : task.settleFixedRoot rootSectors passes fatSectors ≠
      Attempt.refuse (.infeasible .fatSizeUnsettled)) (more : Nat) :
    task.settleFixedRoot rootSectors (passes + more) fatSectors =
      task.settleFixedRoot rootSectors passes fatSectors := by
  induction passes generalizing fatSectors with
  | zero => exact absurd rfl enough
  | succ passes inductionHypothesis =>
    rw [settleFixedRoot_succ aligned] at enough
    rw [Nat.add_right_comm, settleFixedRoot_succ aligned, settleFixedRoot_succ aligned]
    cases found : task.fixedRootFit aligned rootSectors fatSectors with
    | error failure => rfl
    | ok fit =>
      rw [found, Checked.ok_bind] at enough
      rw [Checked.ok_bind, Checked.ok_bind]
      by_cases exact : fit.needed = fatSectors
      · simp only [exact, if_true]
      · simp only [exact, if_false] at enough ⊢
        exact inductionHypothesis enough

/-- How two passes with a fixed root directory end. -/
theorem Sized.settleFixedRoot_two_endsAs (sized : task.Sized) {rootSectors fatSectors : Nat}
    (rootFits : rootSectors ≤ 2 ^ 61) (fatFits : task.Regular → fatSectors ≤ 2 ^ 61) :
    ∃ expected, Attempt.EndsAs (task.settleFixedRoot rootSectors 2 fatSectors) expected
        task.Regular ∧
      (expected = Attempt.refuse (.infeasible .metadataTooLarge) ∨
        ∃ area, expected = .ok area ∧ area.reserved = 1 ∧ task.Settled rootSectors area) := by
  cases search : task.roomyFrom sized.aligned fatSectors
      (task.fixedRootData rootSectors fatSectors) with
  | none =>
    have ends := sized.settleFixedRoot_endsAs rootFits fatFits 1
    rw [search] at ends
    exact ⟨_, ends, .inl rfl⟩
  | some found =>
    obtain ⟨area, ends, settled, reserved, -⟩ :=
      sized.settleFixedRoot_of_room rootFits fatFits search 0
    exact ⟨_, ends, .inr ⟨area, rfl, reserved, settled⟩⟩

/-- Further passes do not matter. -/
theorem Sized.settleFixedRoot_add_two (sized : task.Sized) {rootSectors fatSectors : Nat}
    (rootFits : rootSectors ≤ 2 ^ 61) (fatFits : task.Regular → fatSectors ≤ 2 ^ 61)
    (passes : Nat) :
    task.settleFixedRoot rootSectors (passes + 2) fatSectors =
      task.settleFixedRoot rootSectors 2 fatSectors := by
  obtain ⟨expected, ends, ways⟩ := sized.settleFixedRoot_two_endsAs rootFits fatFits
  rw [Nat.add_comm]
  refine settleFixedRoot_add sized.aligned ?_ passes
  rcases ends with result | ⟨result, -⟩
  · rcases ways with refused | ⟨area, settled, -⟩
    · rw [result, refused]
      exact nofun
    · rw [result, settled]
      exact nofun
  · rw [result]
    exact nofun

/-- Sizing a volume with a fixed root directory takes at most two passes, and ends with an area
that solves the task or because the device is too small. Only numbers that leave their word can
keep it from that, and in a regular task none does. -/
theorem fixedRootArea_within_two_passes (sized : task.Sized) :
    (task.Regular → task.fixedRootArea ≠ .error (.fault .overflow)) ∧
      (task.fixedRootArea ≠ .error (.fault .overflow) →
        ∃ rootSectors first,
          rootDirectorySectors fixedRootEntries task.bytesPerSector = .ok rootSectors ∧
          task.firstFatSectors = .ok first ∧
          (∀ passes, task.settleFixedRoot rootSectors (passes + 2) first = task.fixedRootArea) ∧
          (task.fixedRootArea = Attempt.refuse (.infeasible .metadataTooLarge) ∨
            ∃ area, task.fixedRootArea = .ok area ∧ area.reserved = 1 ∧
              task.Settled rootSectors area)) := by
  obtain ⟨rootSectors, roots, rootLe⟩ := rootDirectorySectors_fixed sized.sector_pos
  have rootFits : rootSectors ≤ 2 ^ 61 := rootLe.trans (by decide)
  have opened : task.fixedRootArea = liftM task.firstFatSectors >>= fun first =>
      task.settleFixedRoot rootSectors settlingPasses first := by
    rw [fixedRootArea, roots, Attempt.lift_ok, Checked.ok_bind]
  rcases sized.firstFatSectors_endsAs with initial | ⟨overflow, beyond⟩
  · have first := Attempt.lift_eq_ok_iff.1 initial
    have fatFits := sized.first_le first
    have same := sized.settleFixedRoot_add_two rootFits fatFits
    obtain ⟨expected, ends, ways⟩ := sized.settleFixedRoot_two_endsAs rootFits fatFits
    rw [initial, Checked.ok_bind, show settlingPasses = 4094 + 2 from rfl, same] at opened
    rw [opened]
    constructor
    · intro regular
      rw [ends.eq regular]
      rcases ways with refused | ⟨area, settled, -⟩
      · rw [refused]
        exact Attempt.refuse_ne_overflow _
      · rw [settled]
        exact Attempt.ok_ne_overflow area
    · intro fits
      refine ⟨rootSectors, _, roots, first, same, ?_⟩
      rw [ends.eq_of_ne fits]
      exact ways
  · rw [opened, overflow]
    exact ⟨fun regular => absurd regular beyond, fun fits => absurd rfl fits⟩

/-- The first FATs of four thousand sectors are larger than needed behind two alignment units, so
that a second pass is taken. -/
theorem fixedRootArea_fourThousandSectors :
    Sized ⟨4000, 16, 512, 1, 128⟩ ∧ Regular ⟨4000, 16, 512, 1, 128⟩ ∧
      settleFixedRoot ⟨4000, 16, 512, 1, 128⟩ 32 1 16 =
        Attempt.refuse (.infeasible .fatSizeUnsettled) ∧
      settleFixedRoot ⟨4000, 16, 512, 1, 128⟩ 32 2 16 =
        fixedRootArea ⟨4000, 16, 512, 1, 128⟩ ∧
      ∃ area, fixedRootArea ⟨4000, 16, 512, 1, 128⟩ = .ok area ∧
        Settled ⟨4000, 16, 512, 1, 128⟩ 32 area := by
  have sized : Sized ⟨4000, 16, 512, 1, 128⟩ := ⟨by decide, by decide, by decide, by decide⟩
  have regular : Regular ⟨4000, 16, 512, 1, 128⟩ :=
    regular_of_le (by decide) (by decide) (by decide) (by decide) (by decide) (by decide)
      (by decide) (by decide)
  have onePass : settleFixedRoot ⟨4000, 16, 512, 1, 128⟩ 32 1 16 =
      Attempt.refuse (.infeasible .fatSizeUnsettled) := by cbv
  have computed : fixedRootArea ⟨4000, 16, 512, 1, 128⟩ = .ok ⟨1, 15, 63, 193, 3744⟩ := by cbv
  obtain ⟨fits, settles⟩ := fixedRootArea_within_two_passes sized
  obtain ⟨rootSectors, first, roots, initial, twoPasses, ways⟩ := settles (fits regular)
  cases (show rootDirectorySectors fixedRootEntries 512 = .ok 32 from rfl).symm.trans roots
  cases (show firstFatSectors ⟨4000, 16, 512, 1, 128⟩ = .ok 16 from rfl).symm.trans initial
  refine ⟨sized, regular, onePass, twoPasses 0, ?_⟩
  rcases ways with refused | ⟨area, result, -, settled⟩
  · rw [computed] at refused
    cases refused
  · exact ⟨area, result, settled⟩

/-! ### FAT32 -/

/-- The search that begins with a FAT size comes to a pass, counted from zero: every pass before
it found an area whose FATs are larger than they need to be. -/
def ComesTo (task : FatTask) (aligned : 0 < task.alignment) (first pass : Nat) : Prop :=
  pass ≤ first ∧ ∀ earlier < pass, ∃ fit,
    task.fat32Fit aligned (first - earlier) = .ok fit ∧ fit.needed ≠ first - earlier

theorem ComesTo.before {aligned : 0 < task.alignment} {first pass : Nat}
    (comes : task.ComesTo aligned first (pass + 1)) : task.ComesTo aligned first pass :=
  ⟨Nat.le_of_succ_le comes.1, fun earlier less => comes.2 earlier (Nat.lt_succ_of_lt less)⟩

/-- At a pass that it comes to, the search goes on with the FATs of that pass. -/
theorem ComesTo.settleFat32_eq {aligned : 0 < task.alignment} {first pass : Nat}
    (comes : task.ComesTo aligned first pass) (passes : Nat) :
    task.settleFat32 (passes + pass) first = task.settleFat32 passes (first - pass) := by
  induction pass generalizing passes with
  | zero => rfl
  | succ pass inductionHypothesis =>
    obtain ⟨fit, found, inexact⟩ := comes.2 pass (Nat.lt_succ_self pass)
    have positive : first - pass ≠ 0 := by
      have := comes.1
      omega
    rw [← Nat.succ_add_eq_add_succ, inductionHypothesis comes.before, settleFat32_succ aligned,
      found, Checked.ok_bind, if_neg inexact, if_neg positive, Nat.sub_sub]

/-- What a pass finds is described by its first data sector with room. -/
theorem Sized.fit_of_fat32Fit (sized : task.Sized) (wide : 8 ≤ task.alignment) {fatSectors : Nat}
    (fatFits : task.Regular → fatSectors ≤ 2 ^ 61) {fit : FatFit}
    (result : task.fat32Fit sized.aligned fatSectors = .ok fit) :
    ∃ found, task.roomyFrom sized.aligned fatSectors (task.fat32Data fatSectors) = some found ∧
      fit.needed = task.neededFrom found := by
  have expected := (sized.fat32Fit_endsAs wide fatFits).expected_eq result
  cases search : task.roomyFrom sized.aligned fatSectors (task.fat32Data fatSectors) with
  | none =>
    rw [search] at expected
    cases expected
  | some found =>
    rw [search] at expected
    cases expected
    exact ⟨found, rfl, rfl⟩

/-- Every pass that the search comes to finds room, and needs no less than the first one. -/
theorem Sized.room_of_comesTo (sized : task.Sized) (wide : 8 ≤ task.alignment)
    {first found pass : Nat} (fatFits : task.Regular → first ≤ 2 ^ 61)
    (search : task.roomyFrom sized.aligned first (task.fat32Data first) = some found)
    (comes : task.ComesTo sized.aligned first pass) :
    ∃ later, task.roomyFrom sized.aligned (first - pass) (task.fat32Data (first - pass)) =
      some later ∧ task.neededFrom found ≤ task.neededFrom later := by
  induction pass with
  | zero => exact ⟨found, search, le_rfl⟩
  | succ pass inductionHypothesis =>
    obtain ⟨here, hereSearch, hereNeeded⟩ := inductionHypothesis comes.before
    obtain ⟨fit, result, inexact⟩ := comes.2 pass (Nat.lt_succ_self pass)
    obtain ⟨same, sameSearch, needed⟩ := sized.fit_of_fat32Fit wide
      (fun regular => (Nat.sub_le _ _).trans (fatFits regular)) result
    cases hereSearch.symm.trans sameSearch
    rw [needed] at inexact
    obtain ⟨next, nextSearch, -, nextNeeded⟩ := roomyFrom_pred hereSearch inexact
    rw [Nat.sub_sub] at nextSearch
    exact ⟨next, nextSearch, hereNeeded.trans nextNeeded⟩

/-- What holds of a pass of the search, given the size that the first pass needs: the size it
tries is above zero and not below that one, it goes on from there, it finds an area, and the pass
after it needs no less. -/
structure Descends (task : FatTask) (aligned : 0 < task.alignment) (first needed pass : Nat) :
    Prop where
  pass_le : pass ≤ first - needed
  size_pos : 0 < first - pass
  goes_on : ∀ passes,
    task.settleFat32 (passes + pass) first = task.settleFat32 passes (first - pass)
  feasible : ∀ reason, task.fat32Fit aligned (first - pass) ≠ Attempt.refuse reason
  needed_mono : ∀ fit next, task.fat32Fit aligned (first - pass) = .ok fit →
    fit.needed ≠ first - pass → task.fat32Fit aligned (first - (pass + 1)) = .ok next →
    fit.needed ≤ next.needed

theorem Sized.descends (sized : task.Sized) (wide : 8 ≤ task.alignment) {first found pass : Nat}
    (fatFits : task.Regular → first ≤ 2 ^ 61)
    (search : task.roomyFrom sized.aligned first (task.fat32Data first) = some found)
    (comes : task.ComesTo sized.aligned first pass) :
    task.Descends sized.aligned first (task.neededFrom found) pass := by
  have laterFits (earlier : Nat) (regular : task.Regular) : first - earlier ≤ 2 ^ 61 :=
    (Nat.sub_le _ _).trans (fatFits regular)
  obtain ⟨here, hereSearch, hereNeeded⟩ := sized.room_of_comesTo wide fatFits search comes
  have room := (roomyFrom_spec hereSearch).2.2.2
  have positive := task.neededFrom_pos sized found
  have reached := comes.1
  refine ⟨by omega, by omega, comes.settleFat32_eq, ?_, ?_⟩
  · intro reason refused
    have ends := sized.fat32Fit_endsAs wide (laterFits pass)
    rw [hereSearch] at ends
    rcases ends with result | ⟨result, -⟩
    · rw [result] at refused
      cases refused
    · rw [result] at refused
      cases refused
  · intro fit next result inexact nextResult
    obtain ⟨same, sameSearch, needed⟩ := sized.fit_of_fat32Fit wide (laterFits pass) result
    obtain ⟨last, lastSearch, lastNeeded⟩ :=
      sized.fit_of_fat32Fit wide (laterFits (pass + 1)) nextResult
    rw [needed] at inexact
    obtain ⟨after, afterSearch, -, afterNeeded⟩ := roomyFrom_pred sameSearch inexact
    rw [Nat.sub_sub] at afterSearch
    cases afterSearch.symm.trans lastSearch
    rw [needed, lastNeeded]
    exact afterNeeded

/-- Sizing a FAT32 volume cannot step over the FAT size it looks for. Once the first pass finds an
area, every pass the search comes to does, the needed size does not fall and the tried size stays
above zero, and there are no more passes than the two are apart at first, and one. So the search
ends with an area that solves the task, or was given no more passes than the sizes are apart.
Only numbers that leave their word can keep it from that, and in a regular task none does. -/
theorem fat32Area_descends (sized : task.Sized) (wide : 8 ≤ task.alignment) {first : Nat}
    {fit : FatFit} (initial : task.firstFatSectors = .ok first)
    (found : task.fat32Fit sized.aligned first = .ok fit) :
    fit.needed ≤ first ∧
      (∀ pass, task.ComesTo sized.aligned first pass →
        task.Descends sized.aligned first fit.needed pass) ∧
      (∀ passes, first - fit.needed < passes →
        task.settleFat32 passes first ≠ .error (.fault .overflow) →
        ∃ area, task.settleFat32 passes first = .ok area) ∧
      (task.Regular → ∀ passes, task.settleFat32 passes first ≠ .error (.fault .overflow)) ∧
      (task.fat32Area ≠ .error (.fault .overflow) →
        (∃ area, task.fat32Area = .ok area ∧ task.SettledFat32 area ∧
          (task.alignment ≤ 32768 → area.reserved ≤ 0xFFFF)) ∨
        task.fat32Area = Attempt.refuse (.infeasible .fat32SizeUnsettled) ∧
          settlingPasses ≤ first - fit.needed) := by
  have fatFits := sized.first_le initial
  obtain ⟨data, search, needed⟩ := sized.fit_of_fat32Fit wide fatFits found
  have room := (roomyFrom_spec search).2.2.2
  rw [needed]
  refine ⟨room, fun pass => sized.descends wide fatFits search, ?_, ?_, ?_⟩
  · intro passes enough fits
    obtain ⟨expected, ends, settles⟩ := sized.settleFat32_of_room wide passes fatFits search
    obtain ⟨area, settled, -⟩ := settles.resolve_right fun unsettled => by omega
    exact ⟨area, (ends.eq_of_ne fits).trans settled⟩
  · intro regular passes
    obtain ⟨expected, ends, settles⟩ := sized.settleFat32_of_room wide passes fatFits search
    rw [ends.eq regular]
    rcases settles with ⟨area, settled, -⟩ | ⟨refused, -⟩
    · rw [settled]
      exact Attempt.ok_ne_overflow area
    · rw [refused]
      exact Attempt.refuse_ne_overflow _
  · intro fits
    have opened : task.fat32Area = task.settleFat32 settlingPasses first := by
      rw [fat32Area, initial, Attempt.lift_ok, Checked.ok_bind]
    rw [opened] at fits ⊢
    obtain ⟨expected, ends, settles⟩ := sized.settleFat32_of_room wide settlingPasses fatFits search
    rw [ends.eq_of_ne fits]
    rcases settles with ⟨area, settled, solves, -⟩ | ⟨refused, few⟩
    · refine .inl ⟨area, settled, solves, fun small => ?_⟩
      have limits := solves.reserved_le
      unfold fat32LeastReserved at limits
      omega
    · exact .inr ⟨refused, by omega⟩

/-- On a thousand sectors the first FATs are larger by two sectors than needed behind the first
data sector, and the third pass settles. -/
theorem fat32Area_thousandSectors :
    Sized ⟨1000, 32, 512, 1, 128⟩ ∧ Regular ⟨1000, 32, 512, 1, 128⟩ ∧
      firstFatSectors ⟨1000, 32, 512, 1, 128⟩ = .ok 8 ∧
      fat32Fit ⟨1000, 32, 512, 1, 128⟩ (by decide) 8 = .ok ⟨128, 128, 744, 6⟩ ∧
      ComesTo ⟨1000, 32, 512, 1, 128⟩ (by decide) 8 2 ∧
      Descends ⟨1000, 32, 512, 1, 128⟩ (by decide) 8 6 2 ∧
      (∃ area, settleFat32 ⟨1000, 32, 512, 1, 128⟩ 3 8 = .ok area) ∧
      ∃ area, fat32Area ⟨1000, 32, 512, 1, 128⟩ = .ok area ∧
        SettledFat32 ⟨1000, 32, 512, 1, 128⟩ area ∧ area.reserved ≤ 0xFFFF := by
  have sized : Sized ⟨1000, 32, 512, 1, 128⟩ := ⟨by decide, by decide, by decide, by decide⟩
  have regular : Regular ⟨1000, 32, 512, 1, 128⟩ :=
    regular_of_le (by decide) (by decide) (by decide) (by decide) (by decide) (by decide)
      (by decide) (by decide)
  have initial : firstFatSectors ⟨1000, 32, 512, 1, 128⟩ = .ok 8 := rfl
  have found : fat32Fit ⟨1000, 32, 512, 1, 128⟩ (by decide) 8 = .ok ⟨128, 128, 744, 6⟩ := by cbv
  have comes : ComesTo ⟨1000, 32, 512, 1, 128⟩ (by decide) 8 2 := by
    refine ⟨by decide, fun earlier less => ?_⟩
    have cases : earlier = 0 ∨ earlier = 1 := by omega
    rcases cases with rfl | rfl
    · exact ⟨⟨128, 128, 744, 6⟩, by cbv, by decide⟩
    · exact ⟨⟨128, 128, 744, 6⟩, by cbv, by decide⟩
  obtain ⟨-, descends, settles, fits, ends⟩ := fat32Area_descends sized (by decide) initial found
  refine ⟨sized, regular, initial, found, comes, descends 2 comes,
    settles 3 (by decide) (fits regular 3), ?_⟩
  have opened : fat32Area ⟨1000, 32, 512, 1, 128⟩ =
      settleFat32 ⟨1000, 32, 512, 1, 128⟩ settlingPasses 8 := rfl
  rcases ends (opened ▸ fits regular settlingPasses) with ⟨area, result, settled, small⟩ | few
  · exact ⟨area, result, settled, small (by decide)⟩
  · exact absurd few.2 (by decide)

end CardFormat.FatTask
