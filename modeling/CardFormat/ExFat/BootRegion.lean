/-
This file holds the boot region of exFAT, twelve sectors: the boot sector, eight
further ones without code, the parameters of the storage medium, a reserved sector,
and a sector filled with the checksum of the eleven before it. The checksum leaves
out the three bytes that change while a volume is in use.
-/

import CardFormat.Bytes.Sector
import CardFormat.ExFat.Checksum
import CardFormat.ExFat.Layout

namespace CardFormat.ExFat

/-- Sectors of the boot region. -/
def regionSectors : Nat := 12

/-- Sectors that the checksum covers. -/
def checkedSectors : Nat := 11

/-- How often a number can be halved; zero counts as all 32 bits. -/
def trailingZeros (value : Nat) : Nat :=
  ((List.range 32).find? value.testBit).getD 32

/-- The boot sector. -/
def bootSector (layout : Layout) (serial : UInt32) : Checked (List UInt8) :=
  Sector.compose layout.bytesPerSector
    [⟨0, [0xEB, 0x76, 0x90]⟩,
      ⟨3, [0x45, 0x58, 0x46, 0x41, 0x54, 0x20, 0x20, 0x20]⟩,
      ⟨64, LittleEndian.encode 8 layout.partitionOffset⟩,
      ⟨72, LittleEndian.encode 8 layout.volumeLength⟩,
      ⟨80, LittleEndian.encode 4 layout.fatOffset⟩,
      ⟨84, LittleEndian.encode 4 layout.fatLength⟩,
      ⟨88, LittleEndian.encode 4 layout.heapOffset⟩,
      ⟨92, LittleEndian.encode 4 layout.clusterCount⟩,
      ⟨96, LittleEndian.encode 4 layout.rootCluster⟩,
      ⟨100, LittleEndian.word32 serial⟩,
      ⟨104, LittleEndian.word16 0x0100⟩,
      ⟨106, LittleEndian.word16 0⟩,
      ⟨108, [UInt8.ofNat (trailingZeros layout.bytesPerSector)]⟩,
      ⟨109, [UInt8.ofNat (trailingZeros layout.sectorsPerCluster)]⟩,
      ⟨110, [1]⟩,
      ⟨111, [0x80]⟩,
      ⟨112, [0]⟩,
      ⟨120, List.replicate (510 - 120) 0xF4⟩,
      ⟨Sector.signatureOffset, Sector.signature⟩]

/-- A boot sector without code: the mark is in its last four bytes. -/
def extendedSector (bytesPerSector : Nat) : Checked (List UInt8) := do
  let place ← Checked.subtract bytesPerSector 4
  Sector.compose bytesPerSector [⟨place, LittleEndian.word32 0xAA550000⟩]

/-- The identifier {0A0C7E46-3399-4021-90C8-FA6D389C4BA2} of a flash parameters record. -/
def flashParameters : List UInt8 :=
  [0x46, 0x7E, 0x0C, 0x0A, 0x99, 0x33, 0x21, 0x40, 0x90, 0xC8, 0xFA, 0x6D, 0x38, 0x9C, 0x4B, 0xA2]

/-- The parameters of the storage medium: one record with the size of an erase block.
What is not known about the medium stays zero. -/
def mediumSector (bytesPerSector eraseBlockBytes : Nat) : Checked (List UInt8) :=
  Sector.compose bytesPerSector
    [⟨0, flashParameters⟩, ⟨16, LittleEndian.encode 4 eraseBlockBytes⟩]

/-- The places of bytes that the boot checksum leaves out: the volume flags and the
percentage in use. -/
def uncheckedPlaces : List Nat := [106, 107, 112]

/-- The checksum of bytes from the given place, without the unchecked places. -/
def sumFrom (sum : UInt32) (place : Nat) : List UInt8 → UInt32
  | [] => sum
  | byte :: rest =>
    sumFrom (if uncheckedPlaces.contains place then sum else addByte sum byte) (place + 1) rest

/-- The checksum of a boot region. -/
def bootChecksum (region : List UInt8) (bytesPerSector : Nat) : Checked UInt32 :=
  if bytesPerSector * checkedSectors ≤ region.length then
    .ok (sumFrom 0 0 (region.take (bytesPerSector * checkedSectors)))
  else .error .outOfRange

/-- The first eleven sectors of the boot region. -/
def checkedRegion (layout : Layout) (serial : UInt32) : Checked (List UInt8) := do
  let boot ← bootSector layout serial
  let extended ← extendedSector layout.bytesPerSector
  let medium ← mediumSector layout.bytesPerSector layout.eraseBlockBytes
  return boot ++ (List.replicate 8 extended).flatten ++ medium ++
    List.replicate layout.bytesPerSector 0

/-- The boot region. -/
def bootRegion (layout : Layout) (serial : UInt32) : Checked (List UInt8) := do
  let region ← checkedRegion layout serial
  let sum ← bootChecksum region layout.bytesPerSector
  return region ++
    (List.replicate (layout.bytesPerSector / 4) (LittleEndian.word32 sum)).flatten

end CardFormat.ExFat
