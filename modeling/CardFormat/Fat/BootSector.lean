/-
This file holds the boot sector of a FAT volume, its companion with the free
cluster count, and the third boot sector of FAT32. The parameters of the volume
stand at fixed places; the rest is code that halts the processor.
-/

import CardFormat.Bytes.Sector
import CardFormat.FormatError

namespace CardFormat.Fat

/-- What a boot sector says about its volume. -/
structure BootParameters where
  bytesPerSector : UInt16
  sectorsPerCluster : UInt8
  reservedSectors : UInt16
  rootEntries : UInt16
  /-- Sectors of the partition. -/
  totalSectors : UInt32
  media : UInt8
  sectorsPerFat : UInt32
  sectorsPerTrack : UInt16
  heads : UInt16
  /-- Sectors in front of the partition. -/
  hiddenSectors : UInt32
  serial : UInt32
  label : Vector UInt8 labelLimit
  deriving Repr, DecidableEq

/-- The processor halts. -/
def haltCode : UInt8 := 0xF4

/-- The drive number of a fixed disk. -/
def driveNumber : UInt8 := 0x80

/-- Three more fields follow: serial, label and type. -/
def extendedMark : UInt8 := 0x29

/-- `MSWIN4.1`, the system name every driver accepts. -/
def systemName : List UInt8 := [0x4D, 0x53, 0x57, 0x49, 0x4E, 0x34, 0x2E, 0x31]

/-- Names of the FAT variants as the boot sector shows them, eight bytes each. -/
def typeName : Filesystem → Vector UInt8 8
  | .fat12 => ⟨#[0x46, 0x41, 0x54, 0x31, 0x32, 0x20, 0x20, 0x20], rfl⟩
  | .fat16 => ⟨#[0x46, 0x41, 0x54, 0x31, 0x36, 0x20, 0x20, 0x20], rfl⟩
  | _ => ⟨#[0x46, 0x41, 0x54, 0x33, 0x32, 0x20, 0x20, 0x20], rfl⟩

/-- The fields that all FAT variants share. -/
def commonFields (parameters : BootParameters) (jump : List UInt8) : List Field :=
  [⟨0x00, jump⟩,
    ⟨0x03, systemName⟩,
    ⟨0x0B, LittleEndian.word16 parameters.bytesPerSector⟩,
    ⟨0x0D, [parameters.sectorsPerCluster]⟩,
    ⟨0x0E, LittleEndian.word16 parameters.reservedSectors⟩,
    ⟨0x10, [2]⟩,
    ⟨0x11, LittleEndian.word16 parameters.rootEntries⟩,
    ⟨0x15, [parameters.media]⟩,
    ⟨0x18, LittleEndian.word16 parameters.sectorsPerTrack⟩,
    ⟨0x1A, LittleEndian.word16 parameters.heads⟩,
    ⟨0x1C, LittleEndian.word32 parameters.hiddenSectors⟩,
    ⟨Sector.signatureOffset, Sector.signature⟩]

/-- The total goes into the 16-bit field if it fits there; the other stays zero. -/
def totalField (total : UInt32) : Field :=
  if total ≤ 0xFFFF then ⟨0x13, LittleEndian.word16 total.toUInt16⟩
  else ⟨0x20, LittleEndian.word32 total⟩

/-- The fields that FAT12 and FAT16 have of their own. -/
def fixedRootFields (parameters : BootParameters) (type : Vector UInt8 8) : List Field :=
  [totalField parameters.totalSectors,
    ⟨0x16, LittleEndian.word16 parameters.sectorsPerFat.toUInt16⟩,
    ⟨0x24, [driveNumber]⟩,
    ⟨0x26, [extendedMark]⟩,
    ⟨0x27, LittleEndian.word32 parameters.serial⟩,
    ⟨0x2B, parameters.label.toList⟩,
    ⟨0x36, type.toList⟩,
    ⟨0x3E, List.replicate (0x1FE - 0x3E) haltCode⟩]

/-- The fields that FAT32 has of its own: the root directory starts at cluster 2, the
free cluster count is in sector 1 and the second boot record at sector 6. -/
def fat32Fields (parameters : BootParameters) : List Field :=
  [⟨0x20, LittleEndian.word32 parameters.totalSectors⟩,
    ⟨0x24, LittleEndian.word32 parameters.sectorsPerFat⟩,
    ⟨0x28, LittleEndian.word16 0⟩,
    ⟨0x2A, LittleEndian.word16 0⟩,
    ⟨0x2C, LittleEndian.word32 2⟩,
    ⟨0x30, LittleEndian.word16 1⟩,
    ⟨0x32, LittleEndian.word16 6⟩,
    ⟨0x40, [driveNumber]⟩,
    ⟨0x42, [extendedMark]⟩,
    ⟨0x43, LittleEndian.word32 parameters.serial⟩,
    ⟨0x47, parameters.label.toList⟩,
    ⟨0x52, (typeName .fat32).toList⟩,
    ⟨0x5A, List.replicate (0x1FE - 0x5A) haltCode⟩]

/-- The boot sector of a FAT12 or FAT16 volume. -/
def fixedRootBootSector (parameters : BootParameters) (type : Vector UInt8 8) :
    Checked (List UInt8) :=
  Sector.compose parameters.bytesPerSector.toNat
    (commonFields parameters [0xEB, 0x3C, 0x90] ++ fixedRootFields parameters type)

/-- The boot sector of a FAT32 volume. -/
def fat32BootSector (parameters : BootParameters) : Checked (List UInt8) :=
  Sector.compose parameters.bytesPerSector.toNat
    (commonFields parameters [0xEB, 0x58, 0x90] ++ fat32Fields parameters)

/-- A free cluster count that is not known. -/
def unknownCount : UInt32 := 0xFFFFFFFF

/-- The sector with the free cluster count and the cluster to look at next. -/
def infoSector (bytesPerSector : UInt16) (freeCount nextFree : UInt32) : Checked (List UInt8) :=
  Sector.compose bytesPerSector.toNat
    [⟨0, LittleEndian.word32 0x41615252⟩,
      ⟨484, LittleEndian.word32 0x61417272⟩,
      ⟨488, LittleEndian.word32 freeCount⟩,
      ⟨492, LittleEndian.word32 nextFree⟩,
      ⟨508, LittleEndian.word32 0xAA550000⟩]

/-- The third sector of a FAT32 boot record, which has the mark and nothing else. -/
def sentinelSector (bytesPerSector : UInt16) : Checked (List UInt8) :=
  Sector.compose bytesPerSector.toNat [⟨Sector.signatureOffset, Sector.signature⟩]

end CardFormat.Fat
