/-
This file sizes the regions of a FAT volume. The data area has to begin on an
alignment boundary, and each FAT has to hold an entry for every cluster that the
data area leaves room for; since the FATs take room from the data area, the size
of a FAT is sought in passes. FAT12 and FAT16 move the start of the partition to
reach the boundary, FAT32 grows the reserved area.
-/

import CardFormat.FormatError
import CardFormat.Params.Basic
import CardFormat.Params.Validate

namespace CardFormat

/-- The number of passes after which the search for a FAT size is given up. -/
def settlingPasses : Nat := 4096

/-- What the search for a FAT size needs to know about the device. -/
structure FatTask where
  totalSectors : Nat
  entryBits : Nat
  bytesPerSector : Nat
  sectorsPerCluster : Nat
  alignment : Nat
  deriving Repr, DecidableEq

/-- A filesystem area with room for its own FATs: where it starts, how large it is,
the clusters behind it, and the FAT sectors that these clusters need. -/
structure FatFit where
  start : Nat
  size : Nat
  clusters : Nat
  needed : Nat
  deriving Repr, DecidableEq

namespace FatTask

/-- The sectors of one FAT for the given number of data clusters. -/
def fatSectors (task : FatTask) (clusters : Nat) : Checked Nat := do
  let entries ← Checked.word64 (clusters + 2)
  fatSectorsFor entries task.entryBits task.bytesPerSector

/-- A first size for a FAT: an entry for every cluster of the whole device. -/
def firstFatSectors (task : FatTask) : Checked Nat := do
  let clusters ← Checked.divide task.totalSectors task.sectorsPerCluster
  fatSectorsFor clusters task.entryBits task.bytesPerSector

/-- The whole clusters that fit behind the filesystem area. -/
def dataClusters (task : FatTask) (start size : Nat) : Checked Nat :=
  Checked.divide (task.totalSectors - start - size) task.sectorsPerCluster

/-! ### FAT12 and FAT16 -/

/-- Moves the start on by whole alignment units until the FATs are large enough. -/
def advanceStart (task : FatTask) (aligned : 0 < task.alignment) (fatSectors size start : Nat) :
    Attempt FormatError FatFit :=
  if _inside : start + size ≤ task.totalSectors then do
    let clusters ← task.dataClusters start size
    let needed ← task.fatSectors clusters
    if needed ≤ fatSectors then
      return ⟨start, size, clusters, needed⟩
    else
      let _ ← Checked.word64 (start + task.alignment)
      task.advanceStart aligned fatSectors size (start + task.alignment)
  else Attempt.refuse (.infeasible .metadataTooLarge)
termination_by task.totalSectors + 1 - start

/-- Seeks the FAT size of a volume with a fixed root directory. A pass that finds
smaller FATs sufficient is followed by a pass with those. -/
def settleFixedRoot (task : FatTask) (rootSectors : Nat) :
    (passes : Nat) → (fatSectors : Nat) → Attempt FormatError FatArea
  | 0, _ => Attempt.refuse (.infeasible .fatSizeUnsettled)
  | passes + 1, fatSectors => do
    let size ← Checked.word64 (1 + 2 * fatSectors + rootSectors)
    if aligned : 0 < task.alignment then
      let gap := task.alignment - size % task.alignment
      let start ← Checked.word64 (if gap = task.alignment then gap else gap + task.alignment)
      let fit ← task.advanceStart aligned fatSectors size start
      if fit.needed = fatSectors then
        return ⟨1, fatSectors, size, fit.start, fit.clusters⟩
      else task.settleFixedRoot rootSectors passes fit.needed
    else throw (.fault .divisionByZero)

/-- The regions of a volume with a fixed root directory. -/
def fixedRootArea (task : FatTask) : Attempt FormatError FatArea := do
  let rootSectors ← rootDirectorySectors fixedRootEntries task.bytesPerSector
  let first ← task.firstFatSectors
  task.settleFixedRoot rootSectors settlingPasses first

/-- Gives up clusters at the front, a whole alignment unit at a time, until no more
are left than FAT12 can number. -/
def trimToFat12 (task : FatTask) (area : FatArea) : Attempt FormatError FatArea :=
  if area.clusters ≤ 4084 then return area
  else if _inside : 0 < task.alignment ∧
      area.start + task.alignment + area.size ≤ task.totalSectors then do
    let _ ← Checked.word64 (area.start + task.alignment)
    let clusters ← task.dataClusters (area.start + task.alignment) area.size
    task.trimToFat12
      ⟨area.reserved, area.fatSectors, area.size, area.start + task.alignment, clusters⟩
  else Attempt.refuse (.infeasible .metadataTooLarge)
termination_by task.totalSectors - area.start

/-! ### FAT32 -/

/-- Grows the filesystem area by whole alignment units until the FATs are large
enough. -/
def growArea (task : FatTask) (aligned : 0 < task.alignment) (fatSectors start size : Nat) :
    Attempt FormatError FatFit :=
  if _inside : start + size ≤ task.totalSectors then do
    let clusters ← task.dataClusters start size
    let needed ← task.fatSectors clusters
    if needed ≤ fatSectors then
      return ⟨start, size, clusters, needed⟩
    else
      let _ ← Checked.word64 (size + task.alignment)
      task.growArea aligned fatSectors start (size + task.alignment)
  else Attempt.refuse (.infeasible .metadataTooLarge)
termination_by task.totalSectors + 1 - size

/-- Trades whole alignment units of reserved area for a later start, as long as the
reserved area exceeds its field and at least the boot records are left. The data
area stays where it is. -/
def shortenReserved (alignment : Nat) (area : FatArea) : FatArea :=
  if _excess : 0 < alignment ∧ 0xFFFF < area.reserved ∧
      alignment + fat32LeastReserved ≤ area.reserved then
    shortenReserved alignment
      ⟨area.reserved - alignment, area.fatSectors, area.size - alignment,
        area.start + alignment, area.clusters⟩
  else area
termination_by area.reserved

/-- Seeks the FAT size of a FAT32 volume, one sector less in each pass. -/
def settleFat32 (task : FatTask) :
    (passes : Nat) → (fatSectors : Nat) → Attempt FormatError FatArea
  | 0, _ => Attempt.refuse (.infeasible .fat32SizeUnsettled)
  | passes + 1, fatSectors => do
    let fats ← Checked.word64 (2 * fatSectors)
    if aligned : 0 < task.alignment then
      let gap := task.alignment - fats % task.alignment
      let reserved ← Checked.word64 (if gap < fat32LeastReserved then gap + task.alignment else gap)
      let size ← Checked.word64 (reserved + fats)
      let fit ← task.growArea aligned fatSectors task.alignment size
      if fit.needed = fatSectors then
        return shortenReserved task.alignment
          ⟨fit.size - fats, fatSectors, fit.size, fit.start, fit.clusters⟩
      else if fatSectors = 0 then Attempt.refuse (.infeasible .fat32SizeUnsettled)
      else task.settleFat32 passes (fatSectors - 1)
    else throw (.fault .divisionByZero)

/-- The regions of a FAT32 volume. -/
def fat32Area (task : FatTask) : Attempt FormatError FatArea := do
  let first ← task.firstFatSectors
  task.settleFat32 settlingPasses first

/-- The regions of a FAT32 volume, with clusters halved until there are enough of
them. The task that was solved is given back with the regions. -/
def enoughClusters (task : FatTask) : Attempt FormatError (FatTask × FatArea) := do
  let area ← task.fat32Area
  if _more : area.clusters < 65525 ∧ 1 < task.sectorsPerCluster then
    enoughClusters
      ⟨task.totalSectors, task.entryBits, task.bytesPerSector, task.sectorsPerCluster / 2,
        task.alignment⟩
  else return (task, area)
termination_by task.sectorsPerCluster

/-- The regions of a FAT32 volume, with the alignment halved until the reserved area
fits its field. -/
def fittingReserved (task : FatTask) (area : FatArea) :
    Attempt FormatError (FatTask × FatArea) :=
  if _excess : 0xFFFF < area.reserved ∧ 1 < task.alignment then do
    let smaller : FatTask :=
      ⟨task.totalSectors, task.entryBits, task.bytesPerSector, task.sectorsPerCluster,
        task.alignment / 2⟩
    let area ← smaller.fat32Area
    smaller.fittingReserved area
  else return (task, area)
termination_by task.alignment

end FatTask

end CardFormat
