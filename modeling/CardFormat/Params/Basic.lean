/-
This file holds the parameters of one format: how the card is divided into logical
sectors, clusters and regions. Sizes and positions are in logical sectors unless a
name says otherwise. Quantities that follow from the parameters are computed here,
on machine words.
-/

import CardFormat.Checked
import CardFormat.Filesystem

namespace CardFormat

/-- The regions of a FAT volume. -/
structure FatArea where
  /-- Sectors before the first FAT. -/
  reserved : Nat
  /-- Sectors of one FAT. -/
  fatSectors : Nat
  /-- Reserved sectors, both FATs and the fixed root directory. -/
  size : Nat
  /-- First sector of the partition. -/
  start : Nat
  /-- Number of data clusters. -/
  clusters : Nat
  deriving Repr, DecidableEq

/-- The regions of an exFAT volume. Offsets count from the start of the partition. -/
structure ExFatArea where
  /-- First sector of the partition. -/
  start : Nat
  /-- Sectors of the volume. -/
  length : Nat
  fatOffset : Nat
  fatLength : Nat
  heapOffset : Nat
  /-- Number of clusters in the heap. -/
  clusters : Nat
  deriving Repr, DecidableEq

/-- The regions of a volume. -/
inductive Layout where
  | fat (area : FatArea)
  | exFat (area : ExFatArea)
  deriving Repr, DecidableEq

/-- The parameters of one format. -/
structure Params where
  /-- Capacity in logical sectors. -/
  totalSectors : Nat
  bytesPerSector : Nat
  sectorsPerCluster : Nat
  /-- Erase block in logical sectors. -/
  alignment : Nat
  filesystem : Filesystem
  heads : Nat
  sectorsPerTrack : Nat
  layout : Layout
  deriving Repr, DecidableEq

/-- Bytes of a device sector. -/
def sectorBytes : Nat := 512

/-- Bytes of a directory entry. -/
def directoryEntryBytes : Nat := 32

/-- Entries of the fixed root directory of FAT12 and FAT16. -/
def fixedRootEntries : Nat := 512

/-- The sectors that a fixed root directory takes. -/
def rootDirectorySectors (entries bytesPerSector : Nat) : Checked Nat :=
  Checked.ceilDivide (entries * directoryEntryBytes) bytesPerSector

/-- The sectors of a FAT with the given number of entries. -/
def fatSectorsFor (entries bits bytesPerSector : Nat) : Checked Nat := do
  let tableBits ← Checked.word64 (entries * bits)
  let sectorBits ← Checked.word64 (bytesPerSector * 8)
  Checked.ceilDivide tableBits sectorBits

namespace Params

/-- Device sectors in a logical sector. -/
def sectorRatio (params : Params) : Nat :=
  params.bytesPerSector / sectorBytes

/-- Bytes of a cluster. -/
def clusterBytes (params : Params) : Nat :=
  params.sectorsPerCluster * params.bytesPerSector

/-- First sector of the partition. -/
def partitionStart (params : Params) : Nat :=
  match params.layout with
  | .fat area => area.start
  | .exFat area => area.start

/-- Sectors of the partition, which runs to the end of the device. -/
def partitionSectors (params : Params) : Checked Nat :=
  Checked.subtract params.totalSectors params.partitionStart

/-- Number of data clusters. -/
def clusterCount (params : Params) : Nat :=
  match params.layout with
  | .fat area => area.clusters
  | .exFat area => area.clusters

/-- Entries of the fixed root directory. -/
def rootEntries (params : Params) : Nat :=
  match params.filesystem with
  | .fat12 => fixedRootEntries
  | .fat16 => fixedRootEntries
  | .fat32 => 0
  | .exFat => 0

/-- Sectors of the fixed root directory. -/
def rootSectors (params : Params) : Checked Nat :=
  rootDirectorySectors params.rootEntries params.bytesPerSector

end Params

end CardFormat
