/-
This file holds what an empty FAT volume consists of: the boot record, for FAT32
twice, the first entries of both FATs, and the label in the root directory. The
rest of the filesystem area is zero, and the data area is not touched, but for the
cluster of the FAT32 root directory.
-/

import CardFormat.Fat.BootSector
import CardFormat.Label
import CardFormat.Params.Basic
import CardFormat.Placement

namespace CardFormat.Fat

/-- The media byte of a fixed disk. -/
def fixedDisk : UInt8 := 0xF8

/-- The entries at the start of each FAT: the media byte, an end of chain, and for
FAT32 the root directory. -/
def reservedEntries : Filesystem → List UInt8
  | .fat12 => [fixedDisk, 0xFF, 0xFF]
  | .fat16 => [fixedDisk, 0xFF, 0xFF, 0xFF]
  | _ => LittleEndian.word32 0x0FFFFFF8 ++ LittleEndian.word32 0x0FFFFFFF ++
    LittleEndian.word32 0x0FFFFFFF

/-- The root directory entry that has the label: the name, and the attribute that
marks a label. -/
def labelEntry (name : Vector UInt8 labelLimit) : List UInt8 :=
  name.toList ++ 0x08 :: List.replicate 20 0

/-- What the boot sector says about a volume. -/
def bootParameters (params : Params) (area : FatArea) (partitionSectors : Nat) (label : FatLabel)
    (serial : UInt32) : BootParameters where
  bytesPerSector := UInt16.ofNat params.bytesPerSector
  sectorsPerCluster := UInt8.ofNat params.sectorsPerCluster
  reservedSectors := UInt16.ofNat area.reserved
  rootEntries := UInt16.ofNat params.rootEntries
  totalSectors := UInt32.ofNat partitionSectors
  media := fixedDisk
  sectorsPerFat := UInt32.ofNat area.fatSectors
  sectorsPerTrack := UInt16.ofNat params.sectorsPerTrack
  heads := UInt16.ofNat params.heads
  hiddenSectors := UInt32.ofNat area.start
  serial := serial
  label := label.bootField

/-- The byte offset of a sector of the partition. -/
def sectorOffset (params : Params) (area : FatArea) (sector : Nat) : Checked Nat :=
  Checked.word64 ((area.start + sector) * params.bytesPerSector)

/-- Bytes at a sector of the partition. -/
def atSector (params : Params) (area : FatArea) (sector : Nat) (bytes : List UInt8) :
    Checked Placement := do
  return ⟨← sectorOffset params area sector, .ofList bytes⟩

/-- The boot record: one sector, or for FAT32 three sectors, twice. The second record
does not know the free cluster count. -/
def bootRecord (params : Params) (area : FatArea) (parameters : BootParameters) :
    Checked Placements := do
  if params.filesystem = .fat32 then
    let boot ← fat32BootSector parameters
    let sentinel ← sentinelSector parameters.bytesPerSector
    let free ← Checked.subtract area.clusters 1
    let info ← infoSector parameters.bytesPerSector (UInt32.ofNat free) 3
    let copyInfo ← infoSector parameters.bytesPerSector unknownCount 3
    return [atSector params area 0 (boot ++ info ++ sentinel),
      atSector params area 6 (boot ++ copyInfo ++ sentinel)]
  else
    let boot ← fixedRootBootSector parameters (typeName params.filesystem)
    return [atSector params area 0 boot]

/-- The first entries of both FATs. -/
def fatHeads (params : Params) (area : FatArea) : Placements :=
  [atSector params area area.reserved (reservedEntries params.filesystem),
    atSector params area (area.reserved + area.fatSectors) (reservedEntries params.filesystem)]

/-- The label in the root directory, which follows the FATs. -/
def rootLabel (params : Params) (area : FatArea) (label : FatLabel) : Placements :=
  match label.entryName with
  | none => []
  | some name => [atSector params area (area.reserved + 2 * area.fatSectors) (labelEntry name)]

/-- The sectors that a volume fills from the start of the partition. -/
def filledSectors (params : Params) (area : FatArea) : Nat :=
  if params.filesystem = .fat32 then area.size + params.sectorsPerCluster else area.size

/-- The end of what a volume fills. -/
def finish (params : Params) (area : FatArea) : Checked Placement := do
  return .finish (← sectorOffset params area (filledSectors params area))

/-- What an empty FAT volume consists of. -/
def placements (params : Params) (label : FatLabel) (serial : UInt32) :
    Attempt IoError Placements :=
  match params.layout with
  | .fat area =>
    if params.filesystem.isFat then do
      let partitionSectors ← params.partitionSectors
      let record ← bootRecord params area
        (bootParameters params area partitionSectors label serial)
      return record ++ fatHeads params area ++ rootLabel params area label ++
        [finish params area]
    else Attempt.refuse (notFat params)
  | .exFat _ => Attempt.refuse (notFat params)
where
  /-- The parameters are for something else. -/
  notFat (params : Params) : IoError :=
    ⟨.invalidInput, s!"{params.filesystem.name} parameters do not describe a FAT volume"⟩

end CardFormat.Fat
