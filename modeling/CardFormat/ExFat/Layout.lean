/-
This file holds the layout of a new exFAT volume: the regions, and the clusters
that the volume itself occupies. The allocation bitmap comes first in the heap,
then the up-case table, then the root directory with one cluster. Sectors count
from the start of the partition, unless a name says otherwise.
-/

import CardFormat.Bytes.Word
import CardFormat.ExFat.Bitmap
import CardFormat.IoError
import CardFormat.Params.Basic

namespace CardFormat.ExFat

/-- The layout of a new volume. -/
structure Layout where
  bytesPerSector : Nat
  sectorsPerCluster : Nat
  /-- First sector of the partition, on the device. -/
  partitionOffset : Nat
  volumeLength : Nat
  fatOffset : Nat
  fatLength : Nat
  heapOffset : Nat
  clusterCount : Nat
  bitmapBytes : Nat
  bitmapClusters : Nat
  upcaseBytes : Nat
  upcaseClusters : Nat
  rootCluster : Nat
  eraseBlockBytes : Nat
  deriving Repr, DecidableEq

/-- A number that has to fit a 32-bit field of the boot sector. -/
def bootField (name : String) (value : Nat) : Attempt IoError Nat :=
  if value < 2 ^ 32 then return value
  else Attempt.refuse
    ⟨.invalidInput, s!"exFAT {name} {value} does not fit its boot sector field"⟩

namespace Layout

/-- The layout that the parameters describe, for an up-case table of the given size. -/
def ofParams (params : Params) (upcaseBytes : Nat) : Attempt IoError Layout :=
  match params.layout with
  | .fat _ => Attempt.refuse
    ⟨.invalidInput, s!"{params.filesystem.name} parameters do not describe an exFAT volume"⟩
  | .exFat area => do
    let bitmapBytes := (area.clusters + 7) / 8
    let bitmapClusters ← Checked.ceilDivide bitmapBytes params.clusterBytes
    let upcaseClusters ← Checked.ceilDivide upcaseBytes params.clusterBytes
    let systemClusters ← Checked.word64 (bitmapClusters + upcaseClusters + 1)
    if area.clusters < systemClusters then
      Attempt.refuse ⟨.invalidInput,
        s!"{area.clusters} clusters cannot hold {systemClusters} system clusters"⟩
    let fatOffset ← bootField "FAT offset" area.fatOffset
    let fatLength ← bootField "FAT length" area.fatLength
    let heapOffset ← bootField "cluster heap offset" area.heapOffset
    let clusterCount ← bootField "cluster count" area.clusters
    let bitmapClusters ← bootField "bitmap size" bitmapClusters
    let upcaseClusters ← bootField "up-case table size" upcaseClusters
    let rootCluster ← Checked.word64 (firstCluster + bitmapClusters + upcaseClusters)
    let rootCluster ← bootField "root cluster" rootCluster
    let eraseBlockBytes ← Checked.word64 (params.alignment * params.bytesPerSector)
    let eraseBlockBytes ← bootField "erase block size" eraseBlockBytes
    return {
      bytesPerSector := params.bytesPerSector
      sectorsPerCluster := params.sectorsPerCluster
      partitionOffset := area.start
      volumeLength := area.length
      fatOffset, fatLength, heapOffset, clusterCount, bitmapBytes, bitmapClusters, upcaseBytes
      upcaseClusters, rootCluster, eraseBlockBytes }

/-- The first cluster of the up-case table. -/
def upcaseCluster (layout : Layout) : Checked Nat :=
  Checked.word32 (firstCluster + layout.bitmapClusters)

/-- The clusters that the volume itself occupies. -/
def systemClusters (layout : Layout) : Checked Nat :=
  Checked.word32 (layout.bitmapClusters + layout.upcaseClusters + 1)

/-- The byte offset of a sector from the start of the device. -/
def sectorOffset (layout : Layout) (sector : Nat) : Checked Nat := do
  let deviceSector ← Checked.word64 (layout.partitionOffset + sector)
  Checked.word64 (deviceSector * layout.bytesPerSector)

/-- The byte offset of a cluster from the start of the device. -/
def clusterOffset (layout : Layout) (cluster : Nat) : Checked Nat := do
  let index ← Checked.subtract cluster firstCluster
  let sector ← Checked.word64 (layout.heapOffset + index * layout.sectorsPerCluster)
  layout.sectorOffset sector

/-- The entries of a chain of consecutive clusters: each names the next, and the last
is the end of the chain. -/
def chain (first count : Nat) : List Nat :=
  (List.range count).map fun index =>
    if index + 1 = count then 0xFFFFFFFF else first + index + 1

/-- The entries of the table that a new volume needs: the two reserved ones, and the
chains of the bitmap, the up-case table and the root directory. -/
def fatNumbers (layout : Layout) : Checked (List Nat) := do
  let upcaseCluster ← layout.upcaseCluster
  let _ ← Checked.word32 (upcaseCluster + layout.upcaseClusters)
  let _ ← Checked.word32 (layout.rootCluster + 1)
  return [0xFFFFFFF8, 0xFFFFFFFF] ++ chain firstCluster layout.bitmapClusters ++
    chain upcaseCluster layout.upcaseClusters ++ chain layout.rootCluster 1

/-- The bytes of the entries. -/
def fatEntries (layout : Layout) : Checked (List UInt8) := do
  return (← layout.fatNumbers).flatMap (LittleEndian.encode 4)

/-- The clusters that a new volume has allocated. -/
def bitmap (layout : Layout) : Checked Bitmap := do
  return (Bitmap.empty layout.clusterCount).allocateRange firstCluster (← layout.systemClusters)

end Layout

end CardFormat.ExFat
