/-
This file holds what an empty exFAT volume consists of: the boot region twice, the
start of the table, the allocation bitmap, the up-case table, and the root
directory with its three entries. The rest of the heap is not touched.
-/

import CardFormat.ExFat.BootRegion
import CardFormat.ExFat.DirectoryEntry
import CardFormat.ExFat.Upcase
import CardFormat.Label
import CardFormat.Placement

namespace CardFormat.ExFat

/-- The contents of the root directory. -/
def rootDirectory (layout : Layout) (label : ExFatLabel) : Checked (List UInt8) := do
  let upcaseCluster ← layout.upcaseCluster
  return labelEntry label.units ++ bitmapEntry firstCluster layout.bitmapBytes ++
    upcaseEntry upcaseChecksum upcaseCluster upcaseTable.length

/-- Bytes at a sector of the partition. -/
def atSector (layout : Layout) (sector : Nat) (bytes : Checked Content) : Checked Placement := do
  return ⟨← layout.sectorOffset sector, ← bytes⟩

/-- Bytes at the start of a cluster. -/
def atCluster (layout : Layout) (cluster : Checked Nat) (bytes : Checked Content) :
    Checked Placement := do
  return ⟨← layout.clusterOffset (← cluster), ← bytes⟩

/-- What a volume of the given layout consists of. -/
def layoutPlacements (layout : Layout) (label : ExFatLabel) (region : List UInt8) : Placements :=
  [atSector layout 0 (return .ofList region),
    atSector layout regionSectors (return .ofList region),
    atSector layout layout.fatOffset (return .ofList (← layout.fatEntries)),
    atCluster layout (return firstCluster) (return (← layout.bitmap).bytes),
    atCluster layout layout.upcaseCluster (return .ofList upcaseTable),
    atCluster layout (return layout.rootCluster) (return .ofList (← rootDirectory layout label)),
    atCluster layout (Checked.word32 (layout.rootCluster + 1)) (return .empty)]

/-- What an empty exFAT volume consists of. -/
def placements (params : Params) (label : ExFatLabel) (serial : UInt32) :
    Attempt IoError Placements := do
  let layout ← Layout.ofParams params upcaseTable.length
  let region ← bootRegion layout serial
  return layoutPlacements layout label region

end CardFormat.ExFat
