/-
This file holds the up-case table of exFAT and its compressed form. The table has
one entry per code unit, so that names can be compared without regard to case. A
stretch on which every unit is its own upper case is stored as the unit 0xFFFF and
the length of the stretch; all else is stored as it is, least significant byte
first. A last 0xFFFF with nothing after it stands for itself.
-/

import CardFormat.Bytes.Word
import CardFormat.ExFat.UpcaseData

namespace CardFormat.ExFat

/-- A stretch of a table: its entries, or how many units are their own upper case. -/
inductive Segment where
  | units (values : List UInt16)
  | identity (length : UInt16)
  deriving Repr, DecidableEq

/-- Announces the length of a stretch. -/
def stretchMark : UInt16 := 0xFFFF

/-- The stored units of a stretch. -/
def Segment.stored : Segment → List UInt16
  | .units values => values
  | .identity length => [stretchMark, length]

/-- The bytes of units. -/
def unitBytes (units : List UInt16) : List UInt8 :=
  units.flatMap LittleEndian.word16

/-- The compressed form of a table. -/
def compress (segments : List Segment) (final : List UInt16) : List UInt8 :=
  unitBytes (segments.flatMap Segment.stored ++ final)

/-- The units of bytes; an odd byte at the end is ignored. -/
def unitsOfBytes : List UInt8 → List UInt16
  | low :: high :: rest => UInt16.ofNat (low.toNat + 256 * high.toNat) :: unitsOfBytes rest
  | _ => []

/-- Units that are their own upper case, from a place on. -/
def identityUnits (place length : Nat) : List UInt16 :=
  (List.range' place length).map UInt16.ofNat

/-- Appends the entries that stored units stand for. -/
def expandUnits (table : Array UInt16) : List UInt16 → Array UInt16
  | [] => table
  | [unit] => table.push unit
  | unit :: next :: rest =>
    if unit = stretchMark then
      expandUnits (table ++ identityUnits table.size next.toNat) rest
    else expandUnits (table.push unit) (next :: rest)

/-- The table that a compressed form stands for. -/
def expand (bytes : List UInt8) : Array UInt16 :=
  expandUnits #[] (unitsOfBytes bytes)

/-- Code units by their numbers. -/
def codes (numbers : List Nat) : List UInt16 := numbers.map UInt16.ofNat

/-- The stretches of the standard table. -/
def upcaseSegments : List Segment :=
  [.units (codes upcaseFrom0000),
    .identity 6134,
    .units (codes upcaseFrom1D7D),
    .identity 843,
    .units (codes upcaseFrom24D0),
    .identity 1862,
    .units (codes upcaseFrom2C30),
    .identity 53787,
    .units (codes upcaseFromFF41)]

/-- The standard table as it is stored. -/
def upcaseTable : List UInt8 := compress upcaseSegments [stretchMark]

/-- The checksum of the standard table. -/
def upcaseChecksum : UInt32 := 0x0520D4C0

theorem length_upcaseTable : upcaseTable.length = 5836 := by decide +kernel

end CardFormat.ExFat
