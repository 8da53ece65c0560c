/-
This file compares the two forms of an allocation bitmap: the bytes, in which clusters are
allocated one bit after another, and the runs. Whatever is done to both, the bytes are the ones
that the runs stand for, and both answer alike. No byte that is asked for is missing. One lemma
says so of each operation; a range is a cluster and a shorter range behind it.
-/

import CardFormat.ExFat.Layout
import CardFormat.ExFat.PlainBitmap
import CardFormat.Proofs.Attempt
import CardFormat.Proofs.ExFat.Bitmap
import Mathlib.Data.Nat.Bitwise

namespace CardFormat.ExFat

/-! ### One bit of a byte -/

/-- The mask of a bit is the byte in which only this bit is set. -/
theorem toNat_mask {offset : Nat} (small : offset < 8) :
    ((1 : UInt8) <<< UInt8.ofNat offset).toNat = 2 ^ offset := by
  match offset, small with
  | 0, _ | 1, _ | 2, _ | 3, _ | 4, _ | 5, _ | 6, _ | 7, _ => rfl

/-- A byte has no more than eight bits. -/
theorem testBit_byte_of_le (byte : UInt8) {offset : Nat} (behind : 8 ≤ offset) :
    byte.toNat.testBit offset = false :=
  Nat.testBit_lt_two_pow (Nat.lt_of_lt_of_le byte.toNat_lt (Nat.pow_le_pow_right (by decide) behind))

/-- Two bytes with the same eight bits are the same. -/
theorem byte_eq_of_testBit {first second : UInt8}
    (same : ∀ offset < 8, first.toNat.testBit offset = second.toNat.testBit offset) :
    first = second := by
  refine UInt8.toNat_inj.1 (Nat.eq_of_testBit_eq fun offset => ?_)
  rcases Nat.lt_or_ge offset 8 with small | behind
  · exact same offset small
  · rw [testBit_byte_of_le first behind, testBit_byte_of_le second behind]

/-- A byte and the mask of a bit have something in common if the bit is set. -/
theorem and_mask_ne_zero (byte : UInt8) {offset : Nat} (small : offset < 8) :
    (byte &&& 1 <<< UInt8.ofNat offset != 0) = byte.toNat.testBit offset := by
  rw [Bool.eq_iff_iff, bne_iff_ne, ne_eq, ← UInt8.toNat_inj, UInt8.toNat_and, toNat_mask small,
    Nat.and_two_pow]
  cases byte.toNat.testBit offset with
  | false => simp
  | true => simp

/-- A mask sets its bit and leaves the others. -/
theorem testBit_or_mask (byte : UInt8) {offset : Nat} (small : offset < 8) (other : Nat) :
    (byte ||| 1 <<< UInt8.ofNat offset).toNat.testBit other =
      (decide (offset = other) || byte.toNat.testBit other) := by
  rw [UInt8.toNat_or, Nat.testBit_or, toNat_mask small, Nat.testBit_two_pow, Bool.or_comm]

namespace PlainBitmap

/-! ### The two forms -/

/-- The bytes are those of the runs. -/
structure Mirrors (plain : PlainBitmap) (bitmap : Bitmap) : Prop where
  clusterCount_eq : plain.clusterCount = bitmap.clusterCount
  bytes_eq : plain.bytes.toList = bitmap.bytes.toList

theorem mirrors_iff {plain : PlainBitmap} {bitmap : Bitmap} :
    plain.Mirrors bitmap ↔ plain.clusterCount = bitmap.clusterCount ∧
      plain.bytes.toList = (List.range bitmap.byteCount).map (Bitmap.byteOf bitmap.bit) := by
  rw [← Bitmap.toList_bytes]
  exact ⟨fun mirrors => ⟨mirrors.1, mirrors.2⟩, fun ⟨count, bytes⟩ => ⟨count, bytes⟩⟩

/-- Without a cluster all bytes are zero. -/
theorem mirrors_empty (clusterCount : Nat) :
    (empty clusterCount).Mirrors (Bitmap.empty clusterCount) := by
  refine mirrors_iff.2 ⟨rfl, ?_⟩
  rw [empty, Array.toList_replicate]
  refine (List.eq_replicate_iff.2 ⟨?_, ?_⟩).symm
  · rw [List.length_map, List.length_range]
    rfl
  · intro byte member
    obtain ⟨index, -, rfl⟩ := List.mem_map.1 member
    refine byte_eq_of_testBit fun offset small => ?_
    rw [Bitmap.testBit_byteOf _ _ small]
    exact (Nat.zero_testBit _).symm

namespace Mirrors

variable {plain : PlainBitmap} {bitmap other : Bitmap}

/-- Runs with the same places have the same bytes. -/
theorem congr (mirrors : plain.Mirrors bitmap) (count : other.clusterCount = bitmap.clusterCount)
    (same : ∀ place, other.bit place = true ↔ bitmap.bit place = true) : plain.Mirrors other := by
  obtain ⟨plainCount, bytes⟩ := mirrors_iff.1 mirrors
  refine mirrors_iff.2 ⟨plainCount.trans count.symm, ?_⟩
  have bits : other.bit = bitmap.bit := funext fun place => Bool.eq_iff_iff.2 (same place)
  rw [bytes, Bitmap.byteCount, Bitmap.byteCount, count, bits]

theorem size_bytes (mirrors : plain.Mirrors bitmap) :
    plain.bytes.size = (bitmap.clusterCount + 7) / 8 := by
  rw [← Array.length_toList, (mirrors_iff.1 mirrors).2, List.length_map, List.length_range]
  rfl

/-- The byte of a place that the heap has is there. -/
theorem byteAt_eq (mirrors : plain.Mirrors bitmap) {place : Nat}
    (inside : place < bitmap.clusterCount) :
    plain.byteAt (place / 8) = .ok (Bitmap.byteOf bitmap.bit (place / 8)) := by
  have within : place / 8 < bitmap.byteCount := by
    unfold Bitmap.byteCount
    omega
  have found : plain.bytes[place / 8]? = some (Bitmap.byteOf bitmap.bit (place / 8)) := by
    rw [← Array.getElem?_toList, (mirrors_iff.1 mirrors).2, List.getElem?_map,
      List.getElem?_range within]
    rfl
  rw [byteAt, found]

/-- Clusters in front of the heap or behind it have no bit. -/
theorem locate_eq_none (mirrors : plain.Mirrors bitmap) {cluster : Nat}
    (outside : cluster < firstCluster ∨ bitmap.clusterCount ≤ cluster - firstCluster) :
    plain.locate cluster = none := by
  unfold locate
  split
  · rfl
  · rename_i inHeap
    exact if_pos (mirrors.clusterCount_eq ▸ outside.resolve_left inHeap)

theorem locate_eq_some (mirrors : plain.Mirrors bitmap) {cluster : Nat}
    (inHeap : firstCluster ≤ cluster) (inside : cluster - firstCluster < bitmap.clusterCount) :
    plain.locate cluster =
      some ((cluster - firstCluster) / 8, 1 <<< UInt8.ofNat ((cluster - firstCluster) % 8)) := by
  rw [locate, if_neg (Nat.not_lt.2 inHeap), mirrors.clusterCount_eq]
  exact if_neg (Nat.not_le.2 inside)

/-- Both say the same of every cluster. -/
theorem isAllocated_eq (mirrors : plain.Mirrors bitmap) (cluster : Nat) :
    plain.isAllocated cluster = .ok (bitmap.isAllocated cluster) := by
  by_cases outside : cluster < firstCluster ∨ bitmap.clusterCount ≤ cluster - firstCluster
  · rw [isAllocated, mirrors.locate_eq_none outside]
    have free : bitmap.isAllocated cluster = false := by
      rw [Bitmap.isAllocated, Bool.and_eq_false_iff, decide_eq_false_iff_not, Nat.not_le]
      exact outside.imp id bitmap.bit_eq_false
    rw [free]
    rfl
  · obtain ⟨inHeap, inside⟩ := not_or.1 outside
    rw [isAllocated, mirrors.locate_eq_some (Nat.le_of_not_lt inHeap) (Nat.lt_of_not_le inside)]
    simp only [mirrors.byteAt_eq (Nat.lt_of_not_le inside), Checked.ok_bind]
    have small : (cluster - firstCluster) % 8 < 8 := Nat.mod_lt _ (by decide)
    rw [and_mask_ne_zero _ small, Bitmap.testBit_byteOf _ _ small, Nat.div_add_mod,
      Bitmap.isAllocated, decide_eq_true (Nat.le_of_not_lt inHeap), Bool.true_and]
    rfl

/-! ### Allocating -/

/-- Setting a bit in its byte sets the place among all places. -/
theorem set_bytes (mirrors : plain.Mirrors bitmap) {place : Nat}
    (inside : place < bitmap.clusterCount) :
    ({ plain with
      bytes := plain.bytes.setIfInBounds (place / 8)
        (Bitmap.byteOf bitmap.bit (place / 8) ||| 1 <<< UInt8.ofNat (place % 8)) } :
      PlainBitmap).Mirrors (bitmap.allocatePlaces place (place + 1)) := by
  obtain ⟨plainCount, bytes⟩ := mirrors_iff.1 mirrors
  have count := bitmap.clusterCount_allocatePlaces place (place + 1)
  have small : place % 8 < 8 := Nat.mod_lt _ (by decide)
  have bits (other : Nat) : (bitmap.allocatePlaces place (place + 1)).bit other =
      (decide (place = other) || bitmap.bit other) := by
    rw [Bool.eq_iff_iff, Bitmap.bit_allocatePlaces, Bool.or_eq_true, decide_eq_true_eq]
    exact or_congr_left (by omega)
  refine mirrors_iff.2 ⟨plainCount.trans count.symm, ?_⟩
  rw [Array.toList_setIfInBounds, bytes, Bitmap.byteCount, Bitmap.byteCount, count]
  refine List.ext_getElem (by simp only [List.length_set, List.length_map]) fun index _ _ => ?_
  rw [List.getElem_set, List.getElem_map, List.getElem_map, List.getElem_range]
  -- In the byte that is set the bit is new; in all others no bit changes.
  refine byte_eq_of_testBit fun offset narrow => ?_
  rw [Bitmap.testBit_byteOf _ _ narrow, bits]
  split
  · rename_i here
    subst here
    rw [testBit_or_mask _ small, Bitmap.testBit_byteOf _ _ narrow]
    congr 1
    rw [decide_eq_decide]
    omega
  · rename_i elsewhere
    rw [Bitmap.testBit_byteOf _ _ narrow, decide_eq_false (by omega), Bool.false_or]

/-- Allocating a cluster goes through, and does the same to both. -/
theorem allocate (mirrors : plain.Mirrors bitmap) (cluster : Nat) :
    ∃ next, plain.allocate cluster = .ok next ∧ next.Mirrors (bitmap.allocate cluster) := by
  rw [Bitmap.allocate]
  by_cases outside : cluster < firstCluster ∨ bitmap.clusterCount ≤ cluster - firstCluster
  · refine ⟨plain, by rw [PlainBitmap.allocate, mirrors.locate_eq_none outside]; rfl, ?_⟩
    split
    · exact mirrors
    · rename_i inHeap
      refine mirrors.congr (bitmap.clusterCount_allocatePlaces _ _) fun place => ?_
      rw [Bitmap.bit_allocatePlaces]
      exact or_iff_right (by omega)
  · obtain ⟨inHeap, inside⟩ := not_or.1 outside
    rw [PlainBitmap.allocate, if_neg inHeap,
      mirrors.locate_eq_some (Nat.le_of_not_lt inHeap) (Nat.lt_of_not_le inside)]
    simp only [mirrors.byteAt_eq (Nat.lt_of_not_le inside), Checked.ok_bind]
    exact ⟨_, rfl, mirrors.set_bytes (Nat.lt_of_not_le inside)⟩

/-- Allocating clusters one after another allocates a stretch of places. -/
theorem allocateFrom (mirrors : plain.Mirrors bitmap) (first count : Nat) :
    ∃ next, plain.allocateFrom first count = .ok next ∧
      next.Mirrors (bitmap.allocatePlaces (first - firstCluster) (first + count - firstCluster)) := by
  induction count generalizing plain bitmap first with
  | zero =>
    refine ⟨plain, rfl, mirrors.congr (bitmap.clusterCount_allocatePlaces _ _) fun place => ?_⟩
    rw [Bitmap.bit_allocatePlaces]
    exact or_iff_right (by omega)
  | succ count inductionHypothesis =>
    obtain ⟨after, allocated, same⟩ := mirrors.allocate first
    obtain ⟨next, others, last⟩ := inductionHypothesis same (first + 1)
    refine ⟨next, ?_, last.congr ?_ fun place => ?_⟩
    · rw [PlainBitmap.allocateFrom, allocated, Checked.ok_bind, others]
    · rw [Bitmap.clusterCount_allocatePlaces, Bitmap.clusterCount_allocatePlaces,
        Bitmap.clusterCount_allocate]
    · rw [Bitmap.bit_allocatePlaces, Bitmap.bit_allocatePlaces, Bitmap.bit_allocate,
        Bitmap.clusterCount_allocate, ← or_assoc]
      exact or_congr_left (by omega)

/-- Allocating a range goes through, and does the same to both. -/
theorem allocateRange (mirrors : plain.Mirrors bitmap) (first count : Nat) :
    ∃ next, plain.allocateRange first count = .ok next ∧
      next.Mirrors (bitmap.allocateRange first count) := by
  obtain ⟨next, allocated, same⟩ :=
    mirrors.allocateFrom first (min (first + count) 0xFFFFFFFF - first)
  refine ⟨next, allocated, same.congr ?_ fun place => ?_⟩
  · rw [Bitmap.allocateRange, Bitmap.clusterCount_allocatePlaces,
      Bitmap.clusterCount_allocatePlaces]
  · rw [Bitmap.allocateRange, Bitmap.bit_allocatePlaces, Bitmap.bit_allocatePlaces]
    exact or_congr_left (by omega)

end Mirrors

end PlainBitmap

/-- The bitmap of a layout has the bytes in which its clusters are allocated one after another. -/
theorem Layout.bitmap_mirrored {layout : Layout} {bitmap : Bitmap}
    (made : layout.bitmap = .ok bitmap) :
    ∃ system plain, layout.systemClusters = .ok system ∧
      (PlainBitmap.empty layout.clusterCount).allocateRange firstCluster system = .ok plain ∧
      plain.Mirrors bitmap := by
  obtain ⟨system, counted, rest⟩ := Checked.bind_eq_ok_iff.1 made
  cases rest
  obtain ⟨plain, allocated, mirrors⟩ :=
    (PlainBitmap.mirrors_empty layout.clusterCount).allocateRange firstCluster system
  exact ⟨system, plain, counted, allocated, mirrors⟩

end CardFormat.ExFat
