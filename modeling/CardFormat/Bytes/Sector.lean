/-
This file holds sectors that are described by their fields. A sector is composed
by laying the fields, in order, over zero bytes; a field that does not lie inside
the sector is a fault. Reading takes the bytes at an offset.
-/

import CardFormat.Bytes.Word
import CardFormat.Checked

namespace CardFormat

/-- Bytes at a fixed place of a sector. -/
structure Field where
  offset : Nat
  bytes : List UInt8
  deriving Repr, DecidableEq

namespace Sector

/-- Lays one field over the sector. -/
def lay (sector : List UInt8) (field : Field) : Checked (List UInt8) :=
  if field.offset + field.bytes.length ≤ sector.length then
    .ok (sector.take field.offset ++ field.bytes ++
      sector.drop (field.offset + field.bytes.length))
  else .error .outOfRange

/-- Lays the fields over the sector in order. -/
def layAll (sector : List UInt8) : List Field → Checked (List UInt8)
  | [] => .ok sector
  | field :: rest => do
    let sector ← lay sector field
    layAll sector rest

/-- The sector of the given size that consists of the fields and zeros. -/
def compose (size : Nat) (fields : List Field) : Checked (List UInt8) :=
  layAll (List.replicate size 0) fields

/-- The bytes at an offset. -/
def read (sector : List UInt8) (offset width : Nat) : List UInt8 :=
  (sector.drop offset).take width

/-- The little-endian number at an offset. -/
def readNumber (sector : List UInt8) (offset width : Nat) : Nat :=
  LittleEndian.decode (read sector offset width)

/-- The mark in the last two bytes of the first 512: the sector is meant to be read. -/
def signature : List UInt8 := [0x55, 0xAA]

/-- The place of the mark. -/
def signatureOffset : Nat := 510

/-! ### What laying a field does -/

theorem lay_eq_ok_iff {sector result : List UInt8} {field : Field} :
    lay sector field = .ok result ↔
      field.offset + field.bytes.length ≤ sector.length ∧
        result = sector.take field.offset ++ field.bytes ++
          sector.drop (field.offset + field.bytes.length) := by
  by_cases inside : field.offset + field.bytes.length ≤ sector.length
  · simp only [lay, inside, if_true, Except.ok.injEq, true_and, eq_comm]
  · simp only [lay, inside, if_false, reduceCtorEq, false_and]

theorem length_lay {sector result : List UInt8} {field : Field}
    (laid : lay sector field = .ok result) : result.length = sector.length := by
  obtain ⟨inside, rfl⟩ := lay_eq_ok_iff.1 laid
  simp only [List.length_append, List.length_take, List.length_drop]
  omega

/-- The field is read back. -/
theorem read_lay_self {sector result : List UInt8} {field : Field}
    (laid : lay sector field = .ok result) :
    read result field.offset field.bytes.length = field.bytes := by
  obtain ⟨inside, rfl⟩ := lay_eq_ok_iff.1 laid
  have before : (sector.take field.offset).length = field.offset := by
    rw [List.length_take]
    omega
  rw [read, List.append_assoc, List.drop_left' before, List.take_left' rfl]

/-- Bytes beside the field keep their value. -/
theorem read_lay_other {sector result : List UInt8} {field : Field} {offset width : Nat}
    (laid : lay sector field = .ok result)
    (apart : offset + width ≤ field.offset ∨ field.offset + field.bytes.length ≤ offset) :
    read result offset width = read sector offset width := by
  obtain ⟨inside, rfl⟩ := lay_eq_ok_iff.1 laid
  apply List.ext_getElem?
  intro index
  simp only [read, List.getElem?_take, List.getElem?_drop, List.append_assoc,
    List.getElem?_append, List.length_take]
  grind

end Sector

end CardFormat
