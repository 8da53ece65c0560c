/-
This file says what the bytes of an allocation bitmap are. They are made in stretches, of
which only the bytes where a run begins or ends are looked at; the others repeat. Byte by
byte this is the whole set of clusters: every cluster of the heap has the bit of its place.
-/

import CardFormat.ExFat.Bitmap

namespace CardFormat.ExFat

/-! ### The places of runs -/

theorem Run.holds_iff (run : Run) (place : Nat) :
    run.holds place = true ↔ run.first ≤ place ∧ place < run.stop := by
  rw [Run.holds, Bool.and_eq_true, decide_eq_true_eq, decide_eq_true_eq]

/-- The places of ascending runs lie in their bounds. -/
theorem Run.Ascending.bounds {least limit place : Nat} {runs : List Run}
    (ascending : Run.Ascending least limit runs) (held : runs.any (·.holds place) = true) :
    least ≤ place ∧ place < limit := by
  induction runs generalizing least with
  | nil => cases held
  | cons head rest inductionHypothesis =>
    obtain ⟨above, filled, below, others⟩ := ascending
    rw [List.any_cons, Bool.or_eq_true] at held
    rcases held with here | later
    · rw [Run.holds_iff] at here
      omega
    · have := inductionHypothesis others later
      omega

namespace Bitmap

/-- No place behind the heap is allocated. -/
theorem bit_eq_false (bitmap : Bitmap) {place : Nat} (behind : bitmap.clusterCount ≤ place) :
    bitmap.bit place = false := by
  rw [← Bool.not_eq_true]
  intro held
  exact absurd (bitmap.ascending.bounds held).2 (Nat.not_lt.2 behind)

variable {bits : Nat → Bool} {index stop : Nat}

/-! ### A byte of eight places -/

theorem testBit_select (bit : Bool) (mask : UInt8) (offset : Nat) :
    (if bit then mask else 0).toNat.testBit offset = (bit && mask.toNat.testBit offset) := by
  cases bit with
  | false => exact Nat.zero_testBit offset
  | true => rfl

/-- The bits of a byte are those of its eight places. -/
theorem testBit_byteOf (bits : Nat → Bool) (index : Nat) {offset : Nat} (small : offset < 8) :
    (byteOf bits index).toNat.testBit offset = bits (8 * index + offset) := by
  simp only [byteOf, UInt8.toNat_or, Nat.testBit_or, testBit_select]
  match offset, small with
  | 0, _ | 1, _ | 2, _ | 3, _ | 4, _ | 5, _ | 6, _ | 7, _ => simp [Nat.testBit]

theorem byteOf_congr {other : Nat}
    (same : ∀ offset < 8, bits (8 * index + offset) = bits (8 * other + offset)) :
    byteOf bits index = byteOf bits other := by
  unfold byteOf
  dsimp only
  rw [same 0 (by decide), same 1 (by decide), same 2 (by decide), same 3 (by decide),
    same 4 (by decide), same 5 (by decide), same 6 (by decide), same 7 (by decide)]

/-! ### Bytes that repeat -/

/-- Bytes that are each like the one before are all like the first. -/
theorem map_byteOf_even {count : Nat}
    (even : ∀ place, index ≤ place → place + 1 < index + count →
      byteOf bits (place + 1) = byteOf bits place) :
    (List.range' index count).map (byteOf bits) = List.replicate count (byteOf bits index) := by
  have first : ∀ offset < count, byteOf bits (index + offset) = byteOf bits index := by
    intro offset inside
    induction offset with
    | zero => rfl
    | succ offset inductionHypothesis =>
      rw [← inductionHypothesis (Nat.lt_of_succ_lt inside)]
      exact even (index + offset) (Nat.le_add_right _ _) (Nat.add_lt_add_left inside index)
  refine List.eq_replicate_iff.2 ⟨by rw [List.length_map, List.length_range'], ?_⟩
  intro byte member
  obtain ⟨place, inRange, rfl⟩ := List.mem_map.1 member
  obtain ⟨above, below⟩ := List.mem_range'_1.1 inRange
  obtain ⟨offset, rfl⟩ := Nat.exists_eq_add_of_le above
  exact first offset (Nat.lt_of_add_lt_add_left below)

/-- Where only the bytes at the edges differ from the ones before them, the stretches are all
the bytes in order. -/
theorem toList_bytesBetween {edges : List Nat} (ordered : edges.Pairwise (· ≤ ·))
    (even : ∀ place, index ≤ place → place + 1 < stop → place ∉ edges → place + 1 ∉ edges →
      byteOf bits (place + 1) = byteOf bits place) (le : index ≤ stop) :
    (bytesBetween bits stop index edges).toList =
      (List.range' index (stop - index)).map (byteOf bits) := by
  induction edges generalizing index with
  | nil =>
    rw [bytesBetween, Content.toList_fill, map_byteOf_even]
    intro place above below
    exact even place above (by omega) List.not_mem_nil List.not_mem_nil
  | cons edge rest inductionHypothesis =>
    obtain ⟨least, others⟩ := List.pairwise_cons.1 ordered
    rw [bytesBetween]
    split
    · rename_i inside
      have before : ∀ place < edge, place ∉ edge :: rest := by
        intro place below member
        rcases List.mem_cons.1 member with rfl | later
        · exact Nat.lt_irrefl _ below
        · exact Nat.lt_irrefl _ (Nat.lt_of_lt_of_le below (least place later))
      have behind : (bytesBetween bits stop (edge + 1) rest).toList =
          (List.range' (edge + 1) (stop - (edge + 1))).map (byteOf bits) := by
        refine inductionHypothesis others ?_ inside.2
        intro place above below notHere notNext
        refine even place (by omega) below (List.not_mem_cons_of_ne_of_not_mem (by omega) notHere) ?_
        exact List.not_mem_cons_of_ne_of_not_mem (by omega) notNext
      have ahead : (List.range' index (edge - index)).map (byteOf bits) =
          List.replicate (edge - index) (byteOf bits index) := by
        refine map_byteOf_even ?_
        intro place above below
        exact even place above (by omega) (before place (by omega)) (before (place + 1) (by omega))
      have parts : List.range' index (stop - index) =
          List.range' index (edge - index) ++ edge :: List.range' (edge + 1) (stop - (edge + 1)) := by
        rw [show stop - index = (edge - index) + (stop - (edge + 1) + 1) by omega,
          ← List.range'_append_1, Nat.add_sub_cancel' inside.1, List.range'_succ]
      rw [Content.toList_append, Content.toList_append, Content.toList_fill, Content.toList_ofList,
        behind, parts, List.map_append, List.map_cons, ahead, List.append_assoc]
      rfl
    · -- An edge that is not between the two ends is passed over.
      rename_i outside
      refine inductionHypothesis others ?_ le
      intro place above below notHere notNext
      refine even place above below (List.not_mem_cons_of_ne_of_not_mem (by omega) notHere) ?_
      exact List.not_mem_cons_of_ne_of_not_mem (by omega) notNext

/-! ### The bytes of a bitmap -/

/-- A run that neither begins nor ends in two bytes has the same places in both. -/
theorem holds_add_eight (run : Run) {place : Nat}
    (here : run.first / 8 ≠ place / 8 ∧ run.stop / 8 ≠ place / 8)
    (next : run.first / 8 ≠ place / 8 + 1 ∧ run.stop / 8 ≠ place / 8 + 1) :
    run.holds (place + 8) = run.holds place := by
  rw [Bool.eq_iff_iff]
  simp only [Run.holds, Bool.and_eq_true, decide_eq_true_eq]
  omega

/-- Only the bytes at the edges of a bitmap differ from the ones before them. -/
theorem byteOf_succ (bitmap : Bitmap) (here : index ∉ bitmap.edges)
    (next : index + 1 ∉ bitmap.edges) :
    byteOf bitmap.bit (index + 1) = byteOf bitmap.bit index := by
  have away : ∀ run ∈ bitmap.runs, ∀ edge ∉ bitmap.edges,
      run.first / 8 ≠ edge ∧ run.stop / 8 ≠ edge := by
    intro run member edge absent
    constructor
    · rintro rfl
      exact absent (List.mem_flatMap.2 ⟨run, member, List.mem_cons_self⟩)
    · rintro rfl
      exact absent (List.mem_flatMap.2 ⟨run, member, List.mem_cons_of_mem _ List.mem_cons_self⟩)
  refine byteOf_congr fun offset small => ?_
  have byte : (8 * index + offset) / 8 = index := by omega
  rw [show 8 * (index + 1) + offset = 8 * index + offset + 8 by omega, bit, bit, Bool.eq_iff_iff,
    List.any_eq_true, List.any_eq_true]
  refine exists_congr fun run => and_congr_right fun member => ?_
  rw [holds_add_eight run (byte.symm ▸ away run member index here)
    (byte.symm ▸ away run member (index + 1) next)]

/-- The edges of ascending runs are in order. -/
theorem ordered_edges {least limit : Nat} {runs : List Run}
    (ascending : Run.Ascending least limit runs) :
    (runs.flatMap fun run => [run.first / 8, run.stop / 8]).Pairwise (· ≤ ·) ∧
      ∀ edge ∈ runs.flatMap fun run => [run.first / 8, run.stop / 8], least / 8 ≤ edge := by
  induction runs generalizing least with
  | nil => exact ⟨List.Pairwise.nil, nofun⟩
  | cons run rest inductionHypothesis =>
    obtain ⟨above, filled, -, others⟩ := ascending
    obtain ⟨ordered, later⟩ := inductionHypothesis others
    have first : least / 8 ≤ run.first / 8 := Nat.div_le_div_right above
    have second : run.first / 8 ≤ run.stop / 8 := Nat.div_le_div_right (Nat.le_of_lt filled)
    have third : run.stop / 8 ≤ (run.stop + 1) / 8 := Nat.div_le_div_right (Nat.le_succ _)
    have behind : ∀ edge ∈ rest.flatMap fun run => [run.first / 8, run.stop / 8],
        run.stop / 8 ≤ edge := fun edge member => Nat.le_trans third (later edge member)
    simp only [List.flatMap_cons, List.cons_append, List.nil_append, List.pairwise_cons,
      List.forall_mem_cons]
    refine ⟨⟨⟨second, ?_⟩, behind, ordered⟩, first, Nat.le_trans first second, ?_⟩
    · exact fun edge member => Nat.le_trans second (behind edge member)
    · exact fun edge member =>
        Nat.le_trans (Nat.le_trans first second) (behind edge member)

/-- Byte by byte a bitmap has the eight places of each. -/
theorem toList_bytes (bitmap : Bitmap) :
    bitmap.bytes.toList = (List.range bitmap.byteCount).map (byteOf bitmap.bit) := by
  have ordered : bitmap.edges.Pairwise (· ≤ ·) := (ordered_edges bitmap.ascending).1
  rw [bytes, toList_bytesBetween ordered (fun _ _ _ here next => byteOf_succ bitmap here next)
    (Nat.zero_le _), Nat.sub_zero, List.range_eq_range']

/-- Every cluster of the heap has a bit on disk, which says whether it is allocated. -/
theorem testBit_bytes (bitmap : Bitmap) {cluster : Nat} (inHeap : firstCluster ≤ cluster)
    (inside : cluster < bitmap.clusterCount + firstCluster) :
    ∃ byte, bitmap.bytes.toList[(cluster - firstCluster) / 8]? = some byte ∧
      byte.toNat.testBit ((cluster - firstCluster) % 8) = bitmap.isAllocated cluster := by
  have within : (cluster - firstCluster) / 8 < bitmap.byteCount := by
    unfold byteCount
    omega
  refine ⟨byteOf bitmap.bit ((cluster - firstCluster) / 8), ?_, ?_⟩
  · rw [toList_bytes, List.getElem?_map, List.getElem?_range within]
    rfl
  · rw [testBit_byteOf _ _ (Nat.mod_lt _ (by decide)), Nat.div_add_mod, isAllocated,
      decide_eq_true inHeap, Bool.true_and]

/-! ### Allocating -/

/-- Allocating clusters does not change how many there are. -/
theorem clusterCount_allocatePlaces (bitmap : Bitmap) (first stop : Nat) :
    (bitmap.allocatePlaces first stop).clusterCount = bitmap.clusterCount := by
  unfold allocatePlaces
  split
  · rfl
  · rfl

/-- Allocating places adds those of them that the heap has. -/
theorem bit_allocatePlaces (bitmap : Bitmap) (first stop place : Nat) :
    (bitmap.allocatePlaces first stop).bit place = true ↔
      (first ≤ place ∧ place < stop ∧ place < bitmap.clusterCount) ∨
        bitmap.bit place = true := by
  unfold allocatePlaces
  split
  · rename_i filled
    rw [bit, Run.any_holds_insert _ _ _ filled bitmap.ascending, Bool.or_eq_true, Run.holds,
      Bool.and_eq_true, decide_eq_true_eq, decide_eq_true_eq, Nat.lt_min]
    rfl
  · rename_i nothing
    have none : ¬ (first ≤ place ∧ place < stop ∧ place < bitmap.clusterCount) := by omega
    rw [or_iff_right none]

/-- Allocating a cluster does not change how many there are. -/
theorem clusterCount_allocate (bitmap : Bitmap) (cluster : Nat) :
    (bitmap.allocate cluster).clusterCount = bitmap.clusterCount := by
  unfold allocate
  split
  · rfl
  · exact bitmap.clusterCount_allocatePlaces _ _

/-- Allocating a cluster adds its place, if the heap has it. -/
theorem bit_allocate (bitmap : Bitmap) (cluster place : Nat) :
    (bitmap.allocate cluster).bit place = true ↔
      (cluster = place + firstCluster ∧ place < bitmap.clusterCount) ∨
        bitmap.bit place = true := by
  unfold allocate
  split
  · rename_i below
    exact (or_iff_right fun here => absurd below (by omega)).symm
  · rw [bit_allocatePlaces]
    exact or_congr_left (by omega)

/-- What is allocated first is a run of its own. -/
theorem runs_allocatePlaces_empty {clusterCount : Nat} (some : 0 < stop)
    (inside : stop ≤ clusterCount) :
    ((empty clusterCount).allocatePlaces 0 stop).runs = [⟨0, stop⟩] := by
  have least : min stop (empty clusterCount).clusterCount = stop := Nat.min_eq_left inside
  unfold allocatePlaces
  split
  · show [Run.mk 0 (min stop (empty clusterCount).clusterCount)] = _
    rw [least]
  · rename_i nothing
    exact absurd (least.symm ▸ some) nothing

end Bitmap

end CardFormat.ExFat
