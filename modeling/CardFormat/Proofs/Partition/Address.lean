/-
This file says which address a block has under a geometry. Within 1024 cylinders every block
has an address of its own, from which it is computed back; all blocks behind them share the
address that stands for none of them. Nothing is cut off when the parts of an address are put
in their words. Every three bytes are those of one address that fits them, and it is read back.
-/

import CardFormat.Partition.Address
import CardFormat.Proofs.Attempt
import Mathlib.Tactic.IntervalCases

namespace CardFormat.DiskAddress

/-- The blocks that 1024 cylinders have. -/
def reach (heads sectorsPerTrack : Nat) : Nat := 1024 * (heads * sectorsPerTrack)

/-- The address is that of the block, and within the limits of the geometry. -/
structure Locates (address : DiskAddress) (heads sectorsPerTrack block : Nat) : Prop where
  block_eq : address.block heads sectorsPerTrack = block
  cylinder_le : address.cylinder.toNat ≤ 1023
  head_lt : address.head.toNat < heads
  sector_pos : 1 ≤ address.sector.toNat
  sector_le : address.sector.toNat ≤ sectorsPerTrack

/-- A block is found again from its cylinder, its track in the cylinder and its place in the
track. -/
theorem cylinder_head_sector (block heads sectorsPerTrack : Nat) :
    (block / (heads * sectorsPerTrack) * heads + block / sectorsPerTrack % heads) *
      sectorsPerTrack + block % sectorsPerTrack = block := by
  have track : block / (heads * sectorsPerTrack) * heads + block / sectorsPerTrack % heads =
      block / sectorsPerTrack := by
    rw [Nat.mul_comm heads, ← Nat.div_div_eq_div_mul]
    exact Nat.div_add_mod' _ _
  rw [track]
  exact Nat.div_add_mod' _ _

variable {heads sectorsPerTrack block : Nat}

/-- A block within reach has an address of its own. -/
theorem ofBlock_of_lt_reach (heads_le : heads ≤ 256) (track_le : sectorsPerTrack ≤ 63)
    (within : block < reach heads sectorsPerTrack) :
    ∃ address, ofBlock block heads sectorsPerTrack = .ok address ∧
      address.Locates heads sectorsPerTrack block := by
  have positive : 0 < heads * sectorsPerTrack :=
    Nat.pos_of_mul_pos_left (Nat.zero_lt_of_lt within)
  have headsPos : 0 < heads := Nat.pos_of_mul_pos_right positive
  have trackPos : 0 < sectorsPerTrack := Nat.pos_of_mul_pos_left positive
  have cylinder : block / (heads * sectorsPerTrack) < 1024 :=
    Nat.div_lt_of_lt_mul (by rw [Nat.mul_comm]; exact within)
  have head : block / sectorsPerTrack % heads < heads := Nat.mod_lt _ headsPos
  have sector : block % sectorsPerTrack < sectorsPerTrack := Nat.mod_lt _ trackPos
  have cylinderWord : (UInt16.ofNat (block / (heads * sectorsPerTrack))).toNat =
      block / (heads * sectorsPerTrack) :=
    UInt16.toNat_ofNat_of_lt' (Nat.lt_trans cylinder (by decide))
  have headWord : (UInt8.ofNat (block / sectorsPerTrack % heads)).toNat =
      block / sectorsPerTrack % heads :=
    UInt8.toNat_ofNat_of_lt' (Nat.lt_of_lt_of_le head heads_le)
  have sectorWord : (UInt8.ofNat (block % sectorsPerTrack + 1)).toNat =
      block % sectorsPerTrack + 1 :=
    UInt8.toNat_ofNat_of_lt' (Nat.lt_of_le_of_lt (Nat.le_trans sector track_le) (by decide))
  refine ⟨⟨UInt16.ofNat (block / (heads * sectorsPerTrack)),
    UInt8.ofNat (block / sectorsPerTrack % heads), UInt8.ofNat (block % sectorsPerTrack + 1)⟩,
    ?_, ?_, ?_, ?_, ?_, ?_⟩
  · rw [ofBlock, Checked.divide_of_pos positive, Checked.ok_bind, if_neg (by omega),
      Checked.divide_of_pos trackPos, Checked.ok_bind, Checked.remainder_of_pos headsPos,
      Checked.ok_bind, Checked.remainder_of_pos trackPos, Checked.ok_bind]
    rfl
  · simp only [DiskAddress.block, cylinderWord, headWord, sectorWord]
    rw [← Nat.add_assoc, Nat.add_sub_cancel]
    exact cylinder_head_sector block heads sectorsPerTrack
  · simp only [cylinderWord]
    omega
  · simp only [headWord]
    exact head
  · simp only [sectorWord]
    omega
  · simp only [sectorWord]
    omega

/-- A block out of reach has no address of its own. -/
theorem ofBlock_of_reach_le (positive : 0 < heads * sectorsPerTrack)
    (beyond : reach heads sectorsPerTrack ≤ block) :
    ofBlock block heads sectorsPerTrack = .ok last := by
  have cylinder : 1023 < block / (heads * sectorsPerTrack) :=
    (Nat.le_div_iff_mul_le positive).2 beyond
  rw [ofBlock, Checked.divide_of_pos positive, Checked.ok_bind, if_pos cylinder]
  rfl

/-- The cylinder, the track in the cylinder and the place in the track are found again from the
block they make up. -/
theorem digits_of_block {cylinder head place : Nat} (head_lt : head < heads)
    (place_lt : place < sectorsPerTrack)
    (block_eq : (cylinder * heads + head) * sectorsPerTrack + place = block) :
    block / (heads * sectorsPerTrack) = cylinder ∧ block / sectorsPerTrack % heads = head ∧
      block % sectorsPerTrack = place := by
  have headsPos : 0 < heads := Nat.zero_lt_of_lt head_lt
  have trackPos : 0 < sectorsPerTrack := Nat.zero_lt_of_lt place_lt
  have track : block / sectorsPerTrack = heads * cylinder + head := by
    rw [← block_eq, Nat.mul_comm _ sectorsPerTrack, Nat.mul_add_div trackPos,
      Nat.div_eq_of_lt place_lt, Nat.add_zero, Nat.mul_comm cylinder]
  refine ⟨?_, ?_, ?_⟩
  · rw [Nat.mul_comm heads, ← Nat.div_div_eq_div_mul, track, Nat.mul_add_div headsPos,
      Nat.div_eq_of_lt head_lt, Nat.add_zero]
  · rw [track, Nat.mul_add_mod, Nat.mod_eq_of_lt head_lt]
  · rw [← block_eq, Nat.mul_comm _ sectorsPerTrack, Nat.mul_add_mod, Nat.mod_eq_of_lt place_lt]

/-- An address within the limits of a geometry is the one that its block has. -/
theorem Locates.ofBlock_eq {address : DiskAddress}
    (located : address.Locates heads sectorsPerTrack block) :
    ofBlock block heads sectorsPerTrack = .ok address := by
  obtain ⟨cylinder, head, sector⟩ := address
  obtain ⟨block_eq, cylinder_le, head_lt, sector_pos, sector_le⟩ := located
  simp only [DiskAddress.block] at block_eq cylinder_le head_lt sector_pos sector_le
  have headsPos : 0 < heads := Nat.zero_lt_of_lt head_lt
  have trackPos : 0 < sectorsPerTrack := Nat.lt_of_lt_of_le sector_pos sector_le
  obtain ⟨cylinderDigit, headDigit, placeDigit⟩ := digits_of_block head_lt
    (Nat.sub_one_lt_of_le sector_pos sector_le)
    ((Nat.add_sub_assoc sector_pos _).symm.trans block_eq)
  rw [ofBlock, Checked.divide_of_pos (Nat.mul_pos headsPos trackPos), Checked.ok_bind,
    cylinderDigit, if_neg (Nat.not_lt_of_le cylinder_le), Checked.divide_of_pos trackPos,
    Checked.ok_bind, Checked.remainder_of_pos headsPos, Checked.ok_bind, headDigit,
    Checked.remainder_of_pos trackPos, Checked.ok_bind, placeDigit, Nat.sub_add_cancel sector_pos,
    UInt16.ofNat_toNat, UInt8.ofNat_toNat, UInt8.ofNat_toNat]
  rfl

/-! ### The bytes of an address -/

/-- The bits of a small number above its size are clear. -/
theorem getElem_eq_false {width size index : Nat} {word : BitVec width}
    (small : word.toNat < 2 ^ size) (above : size ≤ index) (inside : index < width) :
    word[index] = false := by
  rw [← BitVec.getLsbD_eq_getElem, ← BitVec.testBit_toNat]
  exact Nat.testBit_lt_two_pow (small.trans_le (Nat.pow_le_pow_right (by decide) above))

/-- The bytes of an address that fits them are read back. -/
theorem decode_of_encode {address : DiskAddress} (storable : address.IsStorable)
    {head middle low : UInt8} (bytes : address.encode = [head, middle, low]) :
    decode head middle low = address := by
  obtain ⟨cylinder, head, sector⟩ := address
  obtain ⟨cylinder_le, sector_le⟩ := storable
  have cylinderClear {index : Nat} (above : 10 ≤ index) (inside : index < 16) :
      cylinder.toBitVec[index] = false :=
    getElem_eq_false (Nat.lt_succ_of_le cylinder_le) above inside
  have sectorClear {index : Nat} (above : 6 ≤ index) (inside : index < 8) :
      sector.toBitVec[index] = false :=
    getElem_eq_false (Nat.lt_succ_of_le sector_le) above inside
  simp only [encode, List.cons.injEq, and_true] at bytes
  obtain ⟨rfl, rfl, rfl⟩ := bytes
  simp only [decode, mk.injEq, true_and]
  -- The low eight bits of the cylinder are in one byte and the two above them in the other.
  constructor
  · apply UInt16.toBitVec_inj.1
    ext index inside
    interval_cases index <;> simp [-UInt16.toUInt16_toUInt8, cylinderClear]
  · apply UInt8.toBitVec_inj.1
    ext index inside
    interval_cases index <;> simp [sectorClear]

/-- Three bytes are the bytes of the address read from them. -/
theorem encode_decode (head middle low : UInt8) :
    (decode head middle low).encode = [head, middle, low] := by
  simp only [encode, decode, List.cons.injEq, and_true, true_and]
  constructor
  · apply UInt8.toBitVec_inj.1
    ext index inside
    interval_cases index <;> simp
  · apply UInt8.toBitVec_inj.1
    ext index inside
    interval_cases index <;> simp

/-- An address that is read from bytes fits them. -/
theorem storable_decode (head middle low : UInt8) : (decode head middle low).IsStorable := by
  have top : (middle.toUInt16 &&& (0xC0 : UInt16)).toNat ≤ 0xC0 := by
    rw [UInt16.toNat_and]
    exact Nat.and_le_right
  constructor
  · have small : (decode head middle low).cylinder.toNat < 2 ^ 10 := by
      simp only [decode, UInt16.toNat_or, UInt16.toNat_shiftLeft, UInt8.toNat_toUInt16]
      refine Nat.or_lt_two_pow (low.toNat_lt.trans (by decide)) ?_
      rw [show (2 : UInt16).toNat % 16 = 2 from rfl, Nat.shiftLeft_eq]
      omega
    exact Nat.le_of_lt_succ small
  · simp only [decode, UInt8.toNat_and]
    exact Nat.and_le_right

/-- An address within a geometry that has no more sectors in a track than six bits tell. -/
theorem Locates.storable {address : DiskAddress} {heads sectorsPerTrack block : Nat}
    (located : address.Locates heads sectorsPerTrack block) (track_le : sectorsPerTrack ≤ 63) :
    address.IsStorable :=
  ⟨located.cylinder_le, located.sector_le.trans track_le⟩

/-- A block that 1024 cylinders have gets the one address that locates it within the geometry,
and any other block gets the last address. Either way the three bytes of the address are read
back; and so are any three bytes written again as they were. -/
theorem ofBlock_exact :
    (∀ block heads sectorsPerTrack : Nat, 1 ≤ heads → heads ≤ 256 →
      1 ≤ sectorsPerTrack → sectorsPerTrack ≤ 63 →
      ∃ address, ofBlock block heads sectorsPerTrack = .ok address ∧
        (block < 1024 * (heads * sectorsPerTrack) →
          address.Locates heads sectorsPerTrack block ∧
          ∀ other : DiskAddress, other.Locates heads sectorsPerTrack block → other = address) ∧
        (1024 * (heads * sectorsPerTrack) ≤ block → address = last) ∧
        ∃ head middle low, address.encode = [head, middle, low] ∧
          decode head middle low = address) ∧
    ∀ head middle low, (decode head middle low).encode = [head, middle, low] := by
  refine ⟨?_, encode_decode⟩
  intro block heads sectorsPerTrack heads_pos heads_le track_pos track_le
  rcases Nat.lt_or_ge block (reach heads sectorsPerTrack) with within | beyond
  · obtain ⟨address, found, located⟩ := ofBlock_of_lt_reach heads_le track_le within
    refine ⟨address, found, fun _ => ⟨located, ?_⟩, fun beyond => ?_, _, _, _, rfl,
      decode_of_encode (located.storable track_le) rfl⟩
    · intro other locates
      exact Except.ok.inj (locates.ofBlock_eq.symm.trans found)
    · exact absurd within (Nat.not_lt_of_le beyond)
  · have found := ofBlock_of_reach_le (Nat.mul_pos heads_pos track_pos) beyond
    refine ⟨last, found, fun within => ?_, fun _ => rfl, _, _, _, rfl,
      decode_of_encode (by decide) rfl⟩
    exact absurd within (Nat.not_lt_of_le beyond)

/-- With 256 heads and 63 sectors in a track, all parts of the address of the last block within
reach are as large as their bits allow. -/
theorem ofBlock_exact_lastBlock :
    ∃ address, ofBlock 16515071 256 63 = .ok address ∧ address = ⟨1023, 255, 63⟩ ∧
      address.encode = [255, 255, 255] ∧ decode 255 255 255 = address := by
  obtain ⟨address, found, within, -, head, middle, low, bytes, read⟩ :=
    ofBlock_exact.1 16515071 256 63 (by decide) (by decide) (by decide) (by decide)
  have address_eq : ⟨1023, 255, 63⟩ = address :=
    (within (by decide)).2 ⟨1023, 255, 63⟩ ⟨by decide, by decide, by decide, by decide, by decide⟩
  subst address_eq
  have encoded : encode ⟨1023, 255, 63⟩ = [255, 255, 255] := by decide
  obtain ⟨rfl, rfl, rfl⟩ : head = 255 ∧ middle = 255 ∧ low = 255 := by
    simpa only [List.cons.injEq, and_true] using bytes.symm.trans encoded
  exact ⟨_, found, rfl, encoded, read⟩

end CardFormat.DiskAddress
