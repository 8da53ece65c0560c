/-
This file holds addresses by cylinder, head and sector, as partition entries have
them. The three bytes of an address hold ten bits of cylinder, eight of head and
six of sector; what lies beyond the last cylinder is written as one fixed address.
-/

import CardFormat.Checked

namespace CardFormat

/-- An address by cylinder, head and sector. Sectors count from one. -/
structure DiskAddress where
  cylinder : UInt16
  head : UInt8
  sector : UInt8
  deriving Repr, DecidableEq

namespace DiskAddress

/-- Stands for every block that has no address of its own. -/
def last : DiskAddress := ⟨1023, 254, 63⟩

/-- The address of a block under a geometry. -/
def ofBlock (block heads sectorsPerTrack : Nat) : Checked DiskAddress := do
  let cylinder ← Checked.divide block (heads * sectorsPerTrack)
  if 1023 < cylinder then return last
  let track ← Checked.divide block sectorsPerTrack
  let head ← Checked.remainder track heads
  let sector ← Checked.remainder block sectorsPerTrack
  return ⟨UInt16.ofNat cylinder, UInt8.ofNat head, UInt8.ofNat (sector + 1)⟩

/-- The block at an address under a geometry. -/
def block (address : DiskAddress) (heads sectorsPerTrack : Nat) : Nat :=
  (address.cylinder.toNat * heads + address.head.toNat) * sectorsPerTrack +
    address.sector.toNat - 1

/-- The three bytes of an address. The top two bits of the second are the top two
bits of the cylinder. -/
def encode (address : DiskAddress) : List UInt8 :=
  [address.head, (address.sector &&& (0x3F : UInt8)) ||| ((address.cylinder >>> 2).toUInt8 &&& (0xC0 : UInt8)),
    address.cylinder.toUInt8]

/-- The address of three bytes. -/
def decode (head middle low : UInt8) : DiskAddress :=
  ⟨low.toUInt16 ||| ((middle.toUInt16 &&& (0xC0 : UInt16)) <<< 2), head, middle &&& (0x3F : UInt8)⟩

/-- The address fits its three bytes. -/
def IsStorable (address : DiskAddress) : Prop :=
  address.cylinder.toNat ≤ 1023 ∧ address.sector.toNat ≤ 63

instance (address : DiskAddress) : Decidable address.IsStorable := by
  unfold IsStorable
  infer_instance

end DiskAddress

end CardFormat
