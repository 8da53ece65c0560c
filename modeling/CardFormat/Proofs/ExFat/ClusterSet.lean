/-
This file proves that an allocation bitmap is a set of clusters. After any allocations, of
clusters that the heap has and of others, once or again, it has exactly the clusters of the
heap that one of them covers. Counting the ones of its bytes gives the free clusters: a byte may
have more bits than there are clusters left, but these are never set, and so no sum is too large
and no difference negative. What holds of the runs holds of the bytes that mirror them.
-/

import CardFormat.Proofs.ExFat.PlainBitmap
import Mathlib.Data.Nat.Count
import Mathlib.Order.Interval.Finset.Nat

namespace CardFormat.ExFat

/-! ### Counting the places of runs -/

/-- The lengths of ascending runs count their places. -/
theorem Run.Ascending.sum_length {least limit : Nat} {runs : List Run}
    (ascending : Run.Ascending least limit runs) :
    (runs.map Run.length).sum =
      ((Finset.range limit).filter fun place => runs.any (·.holds place) = true).card := by
  induction runs generalizing least with
  | nil =>
    simp only [List.map_nil, List.sum_nil, List.any_nil, Bool.false_eq_true, Finset.filter_false,
      Finset.card_empty]
  | cons head rest inductionHypothesis =>
    obtain ⟨-, -, below, others⟩ := ascending
    have split : ((Finset.range limit).filter fun place =>
        (head :: rest).any (·.holds place) = true) = Finset.Ico head.first head.stop ∪
          (Finset.range limit).filter fun place => rest.any (·.holds place) = true := by
      ext place
      rw [Finset.mem_union, Finset.mem_filter, Finset.mem_filter, Finset.mem_range,
        Finset.mem_Ico, List.any_cons, Bool.or_eq_true, Run.holds_iff, and_or_left]
      exact or_congr_left (and_iff_right_of_imp fun inside => by omega)
    have apart : Disjoint (Finset.Ico head.first head.stop)
        ((Finset.range limit).filter fun place => rest.any (·.holds place) = true) := by
      refine Finset.disjoint_left.2 fun place here there => ?_
      have later := others.bounds (Finset.mem_filter.1 there).2
      have before := (Finset.mem_Ico.1 here).2
      omega
    rw [List.map_cons, List.sum_cons, inductionHypothesis others, split,
      Finset.card_union_of_disjoint apart, Nat.card_Ico, Run.length]

namespace Bitmap

theorem countAllocated_eq (bitmap : Bitmap) :
    bitmap.countAllocated = Nat.count (fun place => bitmap.bit place = true)
      bitmap.clusterCount := by
  rw [countAllocated, bitmap.ascending.sum_length, Nat.count_eq_card_filter_range]
  rfl

/-! ### Counting ones -/

theorem countP_range (holds : Nat → Bool) (count : Nat) :
    (List.range count).countP holds = Nat.count (fun place => holds place = true) count := by
  induction count with
  | zero => rfl
  | succ count inductionHypothesis =>
    rw [List.range_succ, List.countP_append, inductionHypothesis, Nat.count_succ,
      List.countP_singleton]

/-- The ones of a byte are the places of its eight that are set. -/
theorem ones_byteOf (bits : Nat → Bool) (index : Nat) :
    ones (byteOf bits index) = Nat.count (fun offset => bits (8 * index + offset) = true) 8 := by
  rw [ones, ← countP_range]
  refine List.countP_congr fun offset small => ?_
  rw [testBit_byteOf bits index (List.mem_range.1 small)]

/-- The ones of all bytes are the places that are set. -/
theorem sum_ones_byteOf (bits : Nat → Bool) (count : Nat) :
    ((List.range count).map fun index => ones (byteOf bits index)).sum =
      Nat.count (fun place => bits place = true) (8 * count) := by
  induction count with
  | zero => rfl
  | succ count inductionHypothesis =>
    rw [List.range_succ, List.map_append, List.sum_append, inductionHypothesis, List.map_singleton,
      List.sum_singleton, ones_byteOf, Nat.mul_succ, Nat.count_add]

/-- Counting the ones on disk counts the allocated clusters. -/
theorem sum_ones_bytes (bitmap : Bitmap) :
    (bitmap.bytes.toList.map ones).sum = bitmap.countAllocated := by
  obtain ⟨padding, total⟩ : ∃ padding, 8 * bitmap.byteCount = bitmap.clusterCount + padding :=
    Nat.exists_eq_add_of_le (by unfold byteCount; omega)
  have unused : Nat.count (fun offset => bitmap.bit (bitmap.clusterCount + offset) = true)
      padding = 0 := by
    refine Nat.count_iff_forall_not.2 fun offset _ => ?_
    rw [bitmap.bit_eq_false (Nat.le_add_right _ _)]
    exact Bool.false_ne_true
  rw [toList_bytes, List.map_map]
  refine (sum_ones_byteOf bitmap.bit bitmap.byteCount).trans ?_
  rw [total, Nat.count_add, unused, Nat.add_zero, countAllocated_eq]

/-! ### The clusters of a bitmap -/

theorem isAllocated_iff (bitmap : Bitmap) (cluster : Nat) :
    bitmap.isAllocated cluster = true ↔
      firstCluster ≤ cluster ∧ bitmap.bit (cluster - firstCluster) = true := by
  rw [isAllocated, Bool.and_eq_true, decide_eq_true_eq]

/-- As many places are set as there are clusters. -/
theorem countAllocated_eq_card (bitmap : Bitmap) {clusters : Finset Nat}
    (same : ∀ cluster, bitmap.isAllocated cluster = true ↔ cluster ∈ clusters) :
    bitmap.countAllocated = clusters.card := by
  rw [countAllocated_eq, Nat.count_eq_card_filter_range]
  refine Finset.card_nbij' (· + firstCluster) (· - firstCluster) ?_ ?_ ?_ ?_
  · intro place member
    have set := (Finset.mem_filter.1 member).2
    refine (same _).1 ((bitmap.isAllocated_iff _).2 ⟨Nat.le_add_left _ _, ?_⟩)
    rwa [Nat.add_sub_cancel]
  · intro cluster member
    have set := ((bitmap.isAllocated_iff cluster).1 ((same cluster).2 member)).2
    exact Finset.mem_filter.2 ⟨Finset.mem_range.2 (bitmap.ascending.bounds set).2, set⟩
  · intro place _
    exact Nat.add_sub_cancel _ _
  · intro cluster member
    exact Nat.sub_add_cancel ((bitmap.isAllocated_iff cluster).1 ((same cluster).2 member)).1

theorem countAllocated_le (bitmap : Bitmap) : bitmap.countAllocated ≤ bitmap.clusterCount := by
  rw [countAllocated_eq]
  exact Nat.count_le _

end Bitmap

namespace PlainBitmap

/-- Sums that fit 32 bits are added up without a fault. -/
theorem foldlM_ones {bytes : List UInt8} {sum : Nat}
    (fits : sum + (bytes.map ones).sum < 2 ^ 32) :
    bytes.foldlM (fun sum byte => Checked.word32 (sum + ones byte)) sum =
      .ok (sum + (bytes.map ones).sum) := by
  induction bytes generalizing sum with
  | nil => rfl
  | cons byte rest inductionHypothesis =>
    rw [List.map_cons, List.sum_cons, ← Nat.add_assoc] at fits ⊢
    rw [List.foldlM_cons, Checked.word32_of_lt (Nat.lt_of_le_of_lt (Nat.le_add_right _ _) fits),
      Checked.ok_bind, inductionHypothesis fits]

namespace Mirrors

variable {plain : PlainBitmap} {bitmap : Bitmap}

/-- The ones of all bytes are the allocated clusters. -/
theorem countOnes_eq (mirrors : plain.Mirrors bitmap) (small : bitmap.clusterCount < 2 ^ 32) :
    plain.countOnes = .ok bitmap.countAllocated := by
  have total : (plain.bytes.toList.map ones).sum = bitmap.countAllocated := by
    rw [mirrors.bytes_eq, Bitmap.sum_ones_bytes]
  have fits : 0 + (plain.bytes.toList.map ones).sum < 2 ^ 32 := by
    rw [Nat.zero_add, total]
    exact Nat.lt_of_le_of_lt bitmap.countAllocated_le small
  rw [countOnes, foldlM_ones fits, Nat.zero_add, total]

/-- What is left is never negative. -/
theorem countFree_eq (mirrors : plain.Mirrors bitmap) (small : bitmap.clusterCount < 2 ^ 32) :
    plain.countFree = .ok bitmap.countFree := by
  rw [countFree, mirrors.countOnes_eq small, Checked.ok_bind, mirrors.clusterCount_eq,
    Checked.subtract_of_le bitmap.countAllocated_le, Bitmap.countFree]

end Mirrors

/-! ### The set that a bitmap is -/

/-- The bitmap of a heap is the set of these clusters: it tells which they are, counts them and
those that are left, and has a bit for every cluster and zeros behind them. -/
structure Represents (bitmap : PlainBitmap) (clusterCount : Nat) (clusters : Finset Nat) :
    Prop where
  isAllocated_eq : ∀ cluster, bitmap.isAllocated cluster = .ok (decide (cluster ∈ clusters))
  countOnes_eq : bitmap.countOnes = .ok clusters.card
  card_le : clusters.card ≤ clusterCount
  countFree_eq : bitmap.countFree = .ok (clusterCount - clusters.card)
  byteCount_eq : bitmap.byteCount = (clusterCount + 7) / 8
  bits : ∀ cluster, firstCluster ≤ cluster → cluster < clusterCount + firstCluster →
    ∃ byte, bitmap.bytes[(cluster - firstCluster) / 8]? = some byte ∧
      (byte.toNat.testBit ((cluster - firstCluster) % 8) = true ↔ cluster ∈ clusters)
  padding : ∀ place byte, clusterCount ≤ place → bitmap.bytes[place / 8]? = some byte →
    byte.toNat.testBit (place % 8) = false

/-- Bytes that mirror runs are the set of the clusters of the runs. -/
theorem Mirrors.represents {plain : PlainBitmap} {bitmap : Bitmap} (mirrors : plain.Mirrors bitmap)
    (small : bitmap.clusterCount < 2 ^ 32) {clusters : Finset Nat}
    (same : ∀ cluster, bitmap.isAllocated cluster = true ↔ cluster ∈ clusters) :
    plain.Represents bitmap.clusterCount clusters := by
  have count := bitmap.countAllocated_eq_card same
  exact {
    isAllocated_eq := by
      intro cluster
      rw [mirrors.isAllocated_eq]
      refine congrArg Except.ok (Bool.eq_iff_iff.2 ?_)
      rw [same, decide_eq_true_eq]
    countOnes_eq := (mirrors.countOnes_eq small).trans (congrArg Except.ok count)
    card_le := count ▸ bitmap.countAllocated_le
    countFree_eq := by
      rw [mirrors.countFree_eq small, Bitmap.countFree, count]
    byteCount_eq := mirrors.size_bytes
    bits := by
      intro cluster inHeap inside
      obtain ⟨byte, found, bit⟩ := bitmap.testBit_bytes inHeap inside
      rw [← mirrors.bytes_eq, Array.getElem?_toList] at found
      exact ⟨byte, found, by rw [bit, same]⟩
    padding := by
      intro place byte behind found
      rw [← Array.getElem?_toList, mirrors.bytes_eq, Bitmap.toList_bytes, List.getElem?_map] at found
      obtain ⟨index, inRange, rfl⟩ := Option.map_eq_some_iff.1 found
      obtain ⟨-, rfl⟩ := List.getElem?_eq_some_iff.1 inRange
      rw [List.getElem_range, Bitmap.testBit_byteOf _ _ (Nat.mod_lt _ (by decide)),
        Nat.div_add_mod, bitmap.bit_eq_false behind] }

end PlainBitmap

/-! ### Allocations -/

/-- Something to be allocated: a cluster, or a range of so many. -/
inductive Allocation where
  | cluster (number : Nat)
  | range (first count : Nat)
  deriving Repr, DecidableEq

namespace Allocation

/-- Allocates it in the bytes of a bitmap. -/
def perform (bitmap : PlainBitmap) : Allocation → Checked PlainBitmap
  | cluster number => bitmap.allocate number
  | range first count => bitmap.allocateRange first count

/-- Adds it to the runs of a bitmap. -/
def addTo (bitmap : Bitmap) : Allocation → Bitmap
  | cluster number => bitmap.allocate number
  | range first count => bitmap.allocateRange first count

/-- The clusters it covers, whether the heap has them or not. -/
def Covers : Allocation → Nat → Prop
  | cluster number, other => other = number
  | range first count, other => first ≤ other ∧ other < first + count

instance (allocation : Allocation) (other : Nat) : Decidable (allocation.Covers other) := by
  cases allocation with
  | cluster number => exact inferInstanceAs (Decidable (other = number))
  | range first count => exact inferInstanceAs (Decidable (first ≤ other ∧ other < first + count))

theorem clusterCount_addTo (bitmap : Bitmap) (allocation : Allocation) :
    (allocation.addTo bitmap).clusterCount = bitmap.clusterCount := by
  cases allocation with
  | cluster number => exact bitmap.clusterCount_allocate number
  | range first count => exact bitmap.clusterCount_allocatePlaces _ _

/-- An allocation adds the clusters of the heap that it covers. In a heap this small all of them
have numbers below the one at which ranges are cut off. -/
theorem isAllocated_addTo {bitmap : Bitmap} (small : bitmap.clusterCount ≤ 0xFFFFFFF5)
    (allocation : Allocation) (cluster : Nat) :
    (allocation.addTo bitmap).isAllocated cluster = true ↔
      cluster ∈ Finset.Ico firstCluster (bitmap.clusterCount + firstCluster) ∧
        allocation.Covers cluster ∨ bitmap.isAllocated cluster = true := by
  have first : firstCluster = 2 := rfl
  rw [Bitmap.isAllocated_iff, Bitmap.isAllocated_iff, Finset.mem_Ico]
  by_cases inHeap : firstCluster ≤ cluster
  · cases allocation with
    | cluster number =>
      rw [addTo, Covers, Bitmap.bit_allocate, and_or_left]
      exact or_congr_left (by omega)
    | range start count =>
      rw [addTo, Bitmap.allocateRange, Covers, Bitmap.bit_allocatePlaces, and_or_left]
      exact or_congr_left (by omega)
  · constructor
    · exact fun allocated => absurd allocated.1 inHeap
    · rintro (⟨inside, -⟩ | allocated)
      · exact absurd inside.1 inHeap
      · exact absurd allocated.1 inHeap

/-- The clusters of a heap that one of the allocations covers. -/
def covered (clusterCount : Nat) (allocations : List Allocation) : Finset Nat :=
  (Finset.Ico firstCluster (clusterCount + firstCluster)).filter fun cluster =>
    ∃ allocation ∈ allocations, allocation.Covers cluster

theorem clusterCount_foldl (bitmap : Bitmap) (allocations : List Allocation) :
    (allocations.foldl addTo bitmap).clusterCount = bitmap.clusterCount := by
  induction allocations generalizing bitmap with
  | nil => rfl
  | cons allocation rest inductionHypothesis =>
    rw [List.foldl_cons, inductionHypothesis, clusterCount_addTo]

/-- One allocation after another adds what they cover. -/
theorem isAllocated_foldl {bitmap : Bitmap} (small : bitmap.clusterCount ≤ 0xFFFFFFF5)
    (allocations : List Allocation) (cluster : Nat) :
    (allocations.foldl addTo bitmap).isAllocated cluster = true ↔
      cluster ∈ covered bitmap.clusterCount allocations ∨ bitmap.isAllocated cluster = true := by
  induction allocations generalizing bitmap with
  | nil =>
    simp only [List.foldl_nil, covered, List.not_mem_nil, false_and, exists_false,
      Finset.filter_false, Finset.notMem_empty, false_or]
  | cons allocation rest inductionHypothesis =>
    have count := clusterCount_addTo bitmap allocation
    rw [List.foldl_cons, inductionHypothesis (count ▸ small), isAllocated_addTo small, count]
    simp only [covered, Finset.mem_filter, List.exists_mem_cons_iff, and_or_left]
    exact or_left_comm.trans or_assoc.symm

/-- One step: an allocation goes through in the bytes, which mirror the runs as before. -/
theorem perform_mirrors {plain : PlainBitmap} {bitmap : Bitmap} (mirrors : plain.Mirrors bitmap)
    (allocation : Allocation) :
    ∃ next, allocation.perform plain = .ok next ∧ next.Mirrors (allocation.addTo bitmap) := by
  cases allocation with
  | cluster number => exact mirrors.allocate number
  | range first count => exact mirrors.allocateRange first count

/-- A run: so do all of them, one after another. -/
theorem foldlM_mirrors {plain : PlainBitmap} {bitmap : Bitmap} (mirrors : plain.Mirrors bitmap)
    (allocations : List Allocation) :
    ∃ last, allocations.foldlM perform plain = .ok last ∧
      last.Mirrors (allocations.foldl addTo bitmap) := by
  induction allocations generalizing plain bitmap with
  | nil => exact ⟨plain, rfl, mirrors⟩
  | cons allocation rest inductionHypothesis =>
    obtain ⟨next, performed, same⟩ := perform_mirrors mirrors allocation
    obtain ⟨last, others, finished⟩ := inductionHypothesis same
    refine ⟨last, ?_, finished⟩
    rw [List.foldlM_cons, performed, Checked.ok_bind, others]

/-- Whatever is allocated in a new bitmap, in whatever order and how often, no step faults. In the
end the bytes are the set of the clusters of the heap that were covered, and those of the runs to
which the same was added. -/
theorem allocations_represent {clusterCount : Nat} (small : clusterCount ≤ 0xFFFFFFF5)
    (allocations : List Allocation) :
    ∃ bitmap, allocations.foldlM perform (PlainBitmap.empty clusterCount) = .ok bitmap ∧
      bitmap.Represents clusterCount (covered clusterCount allocations) ∧
      bitmap.Mirrors (allocations.foldl addTo (Bitmap.empty clusterCount)) := by
  obtain ⟨bitmap, performed, mirrors⟩ :=
    foldlM_mirrors (PlainBitmap.mirrors_empty clusterCount) allocations
  have count := clusterCount_foldl (Bitmap.empty clusterCount) allocations
  have nothing (cluster : Nat) : (Bitmap.empty clusterCount).isAllocated cluster = false := by
    rw [Bitmap.isAllocated]
    exact Bool.and_false _
  have same : ∀ cluster,
      (allocations.foldl addTo (Bitmap.empty clusterCount)).isAllocated cluster = true ↔
        cluster ∈ covered clusterCount allocations := by
    intro cluster
    refine (isAllocated_foldl small allocations cluster).trans (or_iff_left ?_)
    rw [nothing]
    exact Bool.false_ne_true
  have narrow : (allocations.foldl addTo (Bitmap.empty clusterCount)).clusterCount < 2 ^ 32 := by
    rw [count]
    exact Nat.lt_of_le_of_lt small (by decide)
  have represents := mirrors.represents narrow same
  rw [count] at represents
  exact ⟨bitmap, performed, represents, mirrors⟩

/-- Of twenty clusters six are covered, by a range that begins in front of the heap, by one that
ends behind all numbers, and by a cluster twice. Two more clusters are on no heap of that size. -/
theorem allocations_represent_overlapping :
    20 ≤ 0xFFFFFFF5 ∧ ∃ bitmap,
      ([.range 0 5, .cluster 3, .cluster 3, .range 19 0xFFFFFFFF, .cluster 1, .cluster 22] :
        List Allocation).foldlM perform (PlainBitmap.empty 20) = .ok bitmap ∧
      bitmap.Represents 20 {2, 3, 4, 19, 20, 21} := by
  obtain ⟨bitmap, performed, represents, -⟩ := allocations_represent (show 20 ≤ 0xFFFFFFF5 by decide)
    [.range 0 5, .cluster 3, .cluster 3, .range 19 0xFFFFFFFF, .cluster 1, .cluster 22]
  exact ⟨by decide, bitmap, performed, represents⟩

end Allocation

end CardFormat.ExFat
