/-
This file holds the entries of the partition table: sixteen bytes that say where a
partition lies and what it holds. An entry of type zero is no entry.
-/

import CardFormat.Bytes.Sector
import CardFormat.Params.Basic
import CardFormat.Partition.Address

namespace CardFormat

/-- An entry of the partition table. Block numbers count 512-byte sectors. -/
structure PartitionEntry where
  bootable : Bool
  startAddress : DiskAddress
  type : UInt8
  endAddress : DiskAddress
  startBlock : UInt32
  blockCount : UInt32
  deriving Repr, DecidableEq

namespace PartitionEntry

/-- Bytes of an entry. -/
def size : Nat := 16

/-- The sixteen bytes of an entry. -/
def encode (entry : PartitionEntry) : List UInt8 :=
  (if entry.bootable then 0x80 else 0x00) :: entry.startAddress.encode ++
    entry.type :: entry.endAddress.encode ++ LittleEndian.word32 entry.startBlock ++
    LittleEndian.word32 entry.blockCount

/-- The entry of sixteen bytes; further bytes are ignored. -/
def decode (bytes : List UInt8) : Option PartitionEntry :=
  match bytes with
  | flag :: head :: middle :: low :: type :: endHead :: endMiddle :: endLow :: numbers =>
    if numbers.length < 8 ∨ type = 0 then none
    else some {
      bootable := flag == 0x80
      startAddress := DiskAddress.decode head middle low
      type := type
      endAddress := DiskAddress.decode endHead endMiddle endLow
      startBlock := UInt32.ofNat (Sector.readNumber numbers 0 4)
      blockCount := UInt32.ofNat (Sector.readNumber numbers 4 4) }
  | _ => none

end PartitionEntry

/-- Blocks that 1024 cylinders of 255 heads and 63 sectors reach. -/
def addressableBlocks : Nat := 16450560

/-- The type of a partition, from the filesystem and the blocks of the partition and
of the whole device. -/
def partitionType (filesystem : Filesystem) (partitionBlocks totalBlocks : Nat) : Checked UInt8 :=
  match filesystem with
  | .fat12 => return 0x01
  | .fat16 => return if partitionBlocks < 65536 then 0x04 else 0x06
  | .fat32 => do
    let lastBlock ← Checked.subtract totalBlocks 1
    return if lastBlock < addressableBlocks then 0x0B else 0x0C
  | .exFat => return 0x07

/-- The types whose addresses by cylinder, head and sector are meant to be used. -/
def isAddressedType (type : UInt8) : Bool :=
  [0x01, 0x04, 0x06, 0x0B].contains type

/-- The entry of the partition that the parameters describe. -/
def PartitionEntry.ofParams (params : Params) (bootable : Bool) : Checked PartitionEntry := do
  let start ← Checked.word64 (params.partitionStart * params.sectorRatio)
  let total ← Checked.word64 (params.totalSectors * params.sectorRatio)
  let count ← Checked.subtract total start
  let startAddress ← DiskAddress.ofBlock start params.heads params.sectorsPerTrack
  let type ← partitionType params.filesystem count total
  let lastBlock ← Checked.subtract total 1
  let endAddress ← DiskAddress.ofBlock lastBlock params.heads params.sectorsPerTrack
  return ⟨bootable, startAddress, type, endAddress, UInt32.ofNat start, UInt32.ofNat count⟩

end CardFormat
