/-
This file proves that the checksum of an exFAT boot region does what it is for. Rotating the
sum and adding a byte loses nothing, neither of the sum nor of the byte, so when one byte is
changed the sums differ from there on, however many bytes follow. The bytes that are left out
do not count, and what is behind the eleven sectors does not either.
-/

import CardFormat.Proofs.ExFat.BootRegion

namespace CardFormat.ExFat

/-! ### One byte -/

/-- The last bit goes to the front. -/
theorem toNat_rotate (sum : UInt32) :
    ((sum >>> 1) ||| (sum <<< 31)).toNat = 2 ^ 31 * (sum.toNat % 2) + sum.toNat / 2 := by
  have small : sum.toNat / 2 < 2 ^ 31 := by
    have := sum.toNat_lt
    omega
  have shifted : (sum <<< 31).toNat = 2 ^ 31 * (sum.toNat % 2) := by
    rw [UInt32.toNat_shiftLeft]
    show sum.toNat <<< 31 % 2 ^ 32 = _
    rw [Nat.shiftLeft_eq]
    omega
  have halved : (sum >>> 1).toNat = sum.toNat / 2 := by
    rw [UInt32.toNat_shiftRight]
    exact Nat.shiftRight_eq_div_pow _ 1
  rw [UInt32.toNat_or, shifted, halved, Nat.or_comm, Nat.two_pow_add_eq_or_of_lt small]

/-- No two sums become the same by the same byte. -/
theorem addByte_left_inj {first second : UInt32} (byte : UInt8) :
    addByte first byte = addByte second byte ↔ first = second := by
  refine ⟨fun same => ?_, fun equal => congrArg (addByte · byte) equal⟩
  have rotated := congrArg UInt32.toNat ((UInt32.add_left_inj _).1 same)
  have firstSmall := first.toNat_lt
  have secondSmall := second.toNat_lt
  rw [toNat_rotate, toNat_rotate] at rotated
  rw [← UInt32.toNat_inj]
  omega

/-- No two bytes have the same effect on a sum. -/
theorem addByte_right_inj (sum : UInt32) {byte other : UInt8} :
    addByte sum byte = addByte sum other ↔ byte = other := by
  refine ⟨fun same => ?_, congrArg (addByte sum)⟩
  have bytes := congrArg UInt32.toNat ((UInt32.add_right_inj _).1 same)
  rw [UInt8.toNat_toUInt32, UInt8.toNat_toUInt32] at bytes
  exact UInt8.toNat_inj.1 bytes

/-! ### Many bytes -/

/-- Sums that differ still differ after the same bytes. -/
theorem sumFrom_left_inj {first second : UInt32} (place : Nat) (bytes : List UInt8) :
    sumFrom first place bytes = sumFrom second place bytes ↔ first = second := by
  induction bytes generalizing first second place with
  | nil => rfl
  | cons byte rest inductionHypothesis =>
    rw [sumFrom, sumFrom, inductionHypothesis]
    split
    · rfl
    · exact addByte_left_inj byte

/-- Another byte makes another sum, unless its place is left out. -/
theorem sumFrom_set {bytes : List UInt8} {index : Nat} (inside : index < bytes.length)
    (sum : UInt32) (place : Nat) (byte : UInt8) :
    sumFrom sum place (bytes.set index byte) = sumFrom sum place bytes ↔
      place + index ∈ uncheckedPlaces ∨ byte = bytes[index] := by
  induction bytes generalizing index sum place with
  | nil => cases inside
  | cons head rest inductionHypothesis =>
    cases index with
    | zero =>
      rw [List.set_cons_zero, sumFrom, sumFrom, sumFrom_left_inj, Nat.add_zero,
        ← List.contains_iff_mem, List.getElem_cons_zero]
      split
      · rename_i unchecked
        exact ⟨fun _ => .inl unchecked, fun _ => rfl⟩
      · rename_i checked
        rw [addByte_right_inj, or_iff_right checked]
    | succ index =>
      rw [List.set_cons_succ, sumFrom, sumFrom, inductionHypothesis (Nat.lt_of_succ_lt_succ inside),
        List.getElem_cons_succ, Nat.add_right_comm, Nat.add_assoc]

/-! ### The checksum of a region -/

theorem bootChecksum_eq_ok {region : List UInt8} {bytesPerSector : Nat}
    (long : bytesPerSector * checkedSectors ≤ region.length) :
    bootChecksum region bytesPerSector =
      .ok (sumFrom 0 0 (region.take (bytesPerSector * checkedSectors))) :=
  if_pos long

/-- What stands behind the checked sectors does not count. -/
theorem bootChecksum_append {checked : List UInt8} {bytesPerSector : Nat}
    (length_eq : checked.length = bytesPerSector * checkedSectors) (rest : List UInt8) :
    bootChecksum (checked ++ rest) bytesPerSector = bootChecksum checked bytesPerSector := by
  rw [bootChecksum_eq_ok (by rw [List.length_append]; omega),
    bootChecksum_eq_ok (Nat.le_of_eq length_eq.symm), List.take_left' length_eq,
    List.take_of_length_le (Nat.le_of_eq length_eq)]

/-- Changing one byte of a region changes the checksum exactly if the byte is among the checked
ones and its place is not left out. -/
theorem bootChecksum_set {region : List UInt8} {bytesPerSector index : Nat} {byte : UInt8}
    (long : bytesPerSector * checkedSectors ≤ region.length) (inside : index < region.length)
    (changed : byte ≠ region[index]) :
    ∃ before after, bootChecksum region bytesPerSector = .ok before ∧
      bootChecksum (region.set index byte) bytesPerSector = .ok after ∧
      (after ≠ before ↔ index < bytesPerSector * checkedSectors ∧ index ∉ uncheckedPlaces) := by
  refine ⟨_, _, bootChecksum_eq_ok long,
    bootChecksum_eq_ok (by rwa [List.length_set]), not_iff_comm.1 ?_⟩
  rw [List.take_set, not_and_not_right]
  by_cases before : index < bytesPerSector * checkedSectors
  · have within : index < (region.take (bytesPerSector * checkedSectors)).length := by
      rw [List.length_take]
      omega
    rw [sumFrom_set within, Nat.zero_add, List.getElem_take, or_iff_left changed]
    exact ⟨fun left => left before, fun unchecked _ => unchecked⟩
  · have behind : (region.take (bytesPerSector * checkedSectors)).length ≤ index := by
      rw [List.length_take]
      omega
    rw [List.set_eq_of_length_le behind]
    exact ⟨fun _ => rfl, fun _ inFront => absurd inFront before⟩

/-- Every word of the last sector of a boot region is the checksum of the region. -/
theorem bootRegion_verifies {layout : Layout} (large : 512 ≤ layout.bytesPerSector)
    (words : 4 ∣ layout.bytesPerSector) (serial : UInt32) :
    ∃ region sum, bootRegion layout serial = .ok region ∧
      region.length = regionSectors * layout.bytesPerSector ∧
      bootChecksum region layout.bytesPerSector = .ok sum ∧
      ∀ word < layout.bytesPerSector / 4, Sector.readNumber region
        (checkedSectors * layout.bytesPerSector + 4 * word) 4 = sum.toNat := by
  obtain ⟨checked, sum, length_eq, summed, result⟩ := bootRegion_summed large serial
  have sums : (List.replicate (layout.bytesPerSector / 4) (LittleEndian.word32 sum)).flatten =
      (List.replicate (layout.bytesPerSector / 4) sum.toNat).flatMap (LittleEndian.encode 4) := by
    rw [List.flatMap_replicate]
    rfl
  refine ⟨_, sum, result, ?_, ?_, fun word inside => ?_⟩
  · rw [List.length_append, length_eq, length_sums words, checkedSectors, regionSectors]
    omega
  · rw [bootChecksum_append length_eq, summed]
  · have found : (List.replicate (layout.bytesPerSector / 4) sum.toNat)[word]? =
        some sum.toNat := by
      rw [List.getElem?_replicate, if_pos inside]
    rw [Nat.mul_comm checkedSectors, ← length_eq, Nat.mul_comm 4, Sector.readNumber, Sector.read,
      ← List.drop_drop, List.drop_left, sums]
    exact Sector.readNumber_row found sum.toNat_lt

/-- The boot region of every layout carries its own checksum, in every word of its last sector. In
any region, changing one byte changes the checksum if the byte is in the first eleven sectors and
is none of the three that change while a volume is in use, and only then. The checksum that all
this is made of can be taken in parts. -/
theorem bootChecksum_detects_changes :
    (∀ (layout : Layout) (serial : UInt32), 512 ≤ layout.bytesPerSector →
      4 ∣ layout.bytesPerSector →
      ∃ region sum, bootRegion layout serial = .ok region ∧
        region.length = 12 * layout.bytesPerSector ∧
        bootChecksum region layout.bytesPerSector = .ok sum ∧
        ∀ word < layout.bytesPerSector / 4,
          Sector.readNumber region (11 * layout.bytesPerSector + 4 * word) 4 = sum.toNat) ∧
    (∀ (region : List UInt8) (bytesPerSector index : Nat) (byte : UInt8)
      (inside : index < region.length), 11 * bytesPerSector ≤ region.length →
      byte ≠ region[index] →
      ∃ before after, bootChecksum region bytesPerSector = .ok before ∧
        bootChecksum (region.set index byte) bytesPerSector = .ok after ∧
        (after ≠ before ↔
          index < 11 * bytesPerSector ∧ index ≠ 106 ∧ index ≠ 107 ∧ index ≠ 112)) ∧
    ∀ (sum : UInt32) (first second : List UInt8),
      checksum (checksum sum first) second = checksum sum (first ++ second) := by
  refine ⟨fun layout serial large words => bootRegion_verifies large words serial, ?_,
    fun sum first second => (checksum_append sum first second).symm⟩
  intro region bytesPerSector index byte inside long changed
  have count : 11 * bytesPerSector = bytesPerSector * checkedSectors := Nat.mul_comm _ _
  have places : index ∉ uncheckedPlaces ↔ index ≠ 106 ∧ index ≠ 107 ∧ index ≠ 112 := by
    simp only [uncheckedPlaces, List.mem_cons, List.not_mem_nil, or_false, not_or, ne_eq]
  rw [count] at long ⊢
  obtain ⟨before, after, beforeResult, afterResult, differ⟩ :=
    bootChecksum_set long inside changed
  exact ⟨before, after, beforeResult, afterResult, differ.trans (and_congr_right fun _ => places)⟩

/-- A layout with the smallest sectors. -/
def smallLayout : Layout :=
  ⟨512, 8, 64, 5936, 24, 64, 128, 700, 88, 1, 5836, 2, 5, 4096⟩

/-- The boot region of a small layout carries its checksum in 128 words. Changing the last of the
checked bytes changes the checksum; changing the first of the three that are left out, or a byte of
the last sector, does not. -/
theorem bootChecksum_detects_changes_smallLayout :
    ∃ region sum, bootRegion smallLayout 7 = .ok region ∧ region.length = 6144 ∧
      bootChecksum region 512 = .ok sum ∧
      (∀ word < 128, Sector.readNumber region (5632 + 4 * word) 4 = sum.toNat) ∧
      ∀ (byte : UInt8) (index : Nat) (inside : index < region.length), byte ≠ region[index] →
        (index = 5631 → bootChecksum (region.set index byte) 512 ≠ .ok sum) ∧
        (index = 106 ∨ index = 6143 → bootChecksum (region.set index byte) 512 = .ok sum) := by
  obtain ⟨built, detected, -⟩ := bootChecksum_detects_changes
  obtain ⟨region, sum, result, length_eq, summed, words⟩ :=
    built smallLayout 7 (by decide) (by decide)
  refine ⟨region, sum, result, length_eq, summed, words, fun byte index inside changed => ?_⟩
  obtain ⟨before, after, beforeResult, afterResult, differ⟩ :=
    detected region 512 index byte inside (by rw [length_eq]; decide) changed
  obtain rfl : before = sum := Except.ok.inj (beforeResult.symm.trans summed)
  rw [afterResult]
  constructor
  · rintro rfl same
    exact differ.2 (by decide) (Except.ok.inj same)
  · intro unseen
    have same : ¬ after ≠ before := fun other => absurd (differ.1 other) (by omega)
    rw [not_not.1 same]

end CardFormat.ExFat
