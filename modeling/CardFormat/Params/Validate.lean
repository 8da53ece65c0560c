/-
This file checks parameters against the rules of their filesystem. The checks run
in a fixed order and the first rule broken is the reason given. Accepted parameters
describe regions that do not overlap, that fit the device and whose sizes fit the
fields they are recorded in.
-/

import CardFormat.FormatError
import CardFormat.Params.Basic

namespace CardFormat

/-- The least and most clusters of a FAT variant; a table for exFAT does not exist. -/
def fatClusterRange : Filesystem → Option (Nat × Nat)
  | .fat12 => some (1, 4084)
  | .fat16 => some (4087, 65524)
  | .fat32 => some (65525, 0x0FFFFFF6)
  | .exFat => none

/-- The most clusters of an exFAT volume. -/
def exFatClusterLimit : Nat := 0xFFFFFFF5

/-- The fewest reserved sectors of a FAT32 volume: two boot records, the second at
sector 6, of three sectors each. -/
def fat32LeastReserved : Nat := 9

/-- Fails for the given reason unless the condition holds. -/
def require (condition : Bool) (reason : Infeasibility) : Attempt FormatError Unit :=
  if condition then .ok () else Attempt.refuse (.infeasible reason)

/-- Checks the regions of a FAT volume. -/
def validateFat (params : Params) (area : FatArea) : Attempt FormatError Unit := do
  let rootSectors ← params.rootSectors
  let size ← Checked.word64 (area.reserved + 2 * area.fatSectors + rootSectors)
  require (area.size == size) .areaMismatch
  let some (least, most) := fatClusterRange params.filesystem
    | Attempt.refuse (.infeasible .fatLayoutForExFat)
  require (least ≤ area.clusters && area.clusters ≤ most)
    (.clustersOutOfRange area.clusters params.filesystem least most)
  let fatBits ← Checked.word64 (area.fatSectors * params.bytesPerSector * 8)
  let entries := fatBits / params.filesystem.entryBits
  require (area.clusters + 2 ≤ entries) (.fatTooSmall entries (area.clusters + 2))
  require (area.start != 0) .doesNotFit
  let finish ← Checked.word64 (area.start + area.size + area.clusters * params.sectorsPerCluster)
  require (finish ≤ params.totalSectors) .doesNotFit
  require (params.sectorsPerCluster ≤ 128 && area.reserved ≤ 0xFFFF) .bootFieldsExceeded
  require (params.filesystem != .fat32 || fat32LeastReserved ≤ area.reserved)
    .reservedAreaTooSmall
  require (params.filesystem == .fat32 || area.fatSectors ≤ 0xFFFF) .fatSizeFieldExceeded
  let sectors ← params.partitionSectors
  require (sectors ≤ 0xFFFFFFFF) .partitionTooLong

/-- Checks the regions of an exFAT volume. -/
def validateExFat (params : Params) (area : ExFatArea) : Attempt FormatError Unit := do
  require (params.filesystem == .exFat) .exFatLayoutForFat
  require (1 ≤ area.clusters && area.clusters ≤ exFatClusterLimit)
    (.exFatClustersOutOfRange area.clusters)
  require (24 ≤ area.fatOffset) .exFatRegionsOverlap
  let fatEnd ← Checked.word64 (area.fatOffset + area.fatLength)
  require (fatEnd ≤ area.heapOffset) .exFatRegionsOverlap
  let fatBytes ← Checked.word64 (area.fatLength * params.bytesPerSector)
  require (area.clusters + 2 ≤ fatBytes / 4) .exFatFatTooSmall
  let heapEnd ← Checked.word64 (area.heapOffset + area.clusters * params.sectorsPerCluster)
  require (heapEnd ≤ area.length) .exFatDoesNotFit
  let volumeEnd ← Checked.word64 (area.start + area.length)
  require (volumeEnd ≤ params.totalSectors) .exFatDoesNotFit
  require (area.heapOffset ≤ 0xFFFFFFFF && params.clusterBytes ≤ 32 * 1024 * 1024)
    .exFatFieldsExceeded

/-- Checks a set of parameters. -/
def Params.validate (params : Params) : Attempt FormatError Unit := do
  require (isPowerOfTwo params.bytesPerSector && 512 ≤ params.bytesPerSector &&
    params.bytesPerSector ≤ 4096) (.sectorSize params.bytesPerSector)
  require (isPowerOfTwo params.sectorsPerCluster) (.clusterNotPowerOfTwo params.sectorsPerCluster)
  require (isPowerOfTwo params.alignment) (.alignmentNotPowerOfTwo params.alignment)
  match params.layout with
  | .fat area => validateFat params area
  | .exFat area => validateExFat params area

end CardFormat
