/-
This file holds the three entries in the root directory of a new exFAT volume: the
label, the allocation bitmap and the up-case table.
-/

import CardFormat.Bytes.Sector
import CardFormat.FormatError
import CardFormat.Text.Utf16

namespace CardFormat.ExFat

/-- Adds zeros up to the size of an entry. -/
def padEntry (bytes : List UInt8) : List UInt8 :=
  bytes ++ List.replicate (32 - bytes.length) 0

/-- The label: how many units it has, and the units. -/
def labelEntry (units : List UInt16) : List UInt8 :=
  padEntry (0x83 :: UInt8.ofNat units.length :: (units.take labelLimit).flatMap LittleEndian.word16)

/-- Where the allocation bitmap is and how many bytes it has. -/
def bitmapEntry (firstCluster length : Nat) : List UInt8 :=
  0x81 :: List.replicate 19 0 ++ LittleEndian.encode 4 firstCluster ++ LittleEndian.encode 8 length

/-- Where the up-case table is, how many bytes it has, and their checksum. -/
def upcaseEntry (checksum : UInt32) (firstCluster length : Nat) : List UInt8 :=
  0x82 :: List.replicate 3 0 ++ LittleEndian.word32 checksum ++ List.replicate 12 0 ++
    LittleEndian.encode 4 firstCluster ++ LittleEndian.encode 8 length

/-- The units of a label entry, as many as it counts. -/
def labelUnits (entry : List UInt8) : List UInt16 :=
  match entry with
  | _ :: count :: text =>
    (List.range count.toNat).map fun index =>
      UInt16.ofNat (Sector.readNumber text (2 * index) 2)
  | _ => []

/-- The text of a label entry. -/
def readLabel (entry : List UInt8) : Option String :=
  (Text.Utf16.decode (labelUnits entry)).map String.ofList

end CardFormat.ExFat
