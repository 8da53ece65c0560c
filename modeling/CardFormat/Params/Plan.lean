/-
This file turns a capacity into parameters. A card of a given capacity has a usual
geometry, filesystem, cluster size and erase block; FAT32 may be asked for where
exFAT would be usual, at the price of smaller clusters or of larger logical
sectors. What comes out has passed the checks.
-/

import CardFormat.Params.FatArea
import CardFormat.Params.Validate

namespace CardFormat

/-- The fewest sectors a card may have: 64 KiB. -/
def leastSectors : Nat := 128

/-- Heads and sectors per track for cards of up to so many MiB. -/
def geometries : List (Nat × Nat × Nat) :=
  [(2, 2, 16), (16, 2, 32), (32, 4, 32), (128, 8, 32), (256, 16, 32), (504, 16, 63),
    (1008, 32, 63), (2016, 64, 63), (4032, 128, 63)]

/-- Heads and sectors per track of a card with the given number of sectors. -/
def geometryFor (sectors : Nat) : Nat × Nat :=
  match geometries.find? fun row => sectors / 2048 ≤ row.1 with
  | some row => row.2
  | none => (255, 63)

/-- What is usual for cards up to a capacity, in 512-byte sectors. -/
structure Profile where
  capacity : Nat
  filesystem : Filesystem
  sectorsPerCluster : Nat
  alignment : Nat
  deriving Repr, DecidableEq

/-- The usual choices, by rising capacity. -/
def profiles : List Profile :=
  [⟨2 ^ 14, .fat12, 16, 16⟩,
    ⟨2 ^ 17, .fat12, 32, 32⟩,
    ⟨2 ^ 19, .fat16, 32, 64⟩,
    ⟨2 ^ 21, .fat16, 32, 128⟩,
    ⟨2 ^ 22, .fat16, 64, 128⟩,
    ⟨2 ^ 26, .fat32, 64, 8192⟩,
    ⟨2 ^ 28, .exFat, 256, 32768⟩,
    ⟨2 ^ 30, .exFat, 512, 65536⟩,
    ⟨2 ^ 32, .exFat, 1024, 131072⟩]

/-- The usual choices for a capacity. -/
def profileFor (sectors : Nat) : Option Profile :=
  profiles.find? fun profile => sectors ≤ profile.capacity

/-- A card divided into logical sectors and clusters, before its regions are sized. -/
structure Division where
  totalSectors : Nat
  bytesPerSector : Nat
  sectorsPerCluster : Nat
  alignment : Nat
  filesystem : Filesystem
  warnings : List Warning
  deriving Repr, DecidableEq

/-- The usual division of a card. -/
def Division.usual (sectors : Nat) (profile : Profile) : Division :=
  ⟨sectors, sectorBytes, profile.sectorsPerCluster, profile.alignment, profile.filesystem, []⟩

/-- The division of a card for FAT32 in place of exFAT. Clusters have at most 128
sectors; to keep them as large as usual, the sectors have to grow. -/
def Division.forcedFat32 (sectors : Nat) (profile : Profile) (bigClusters : Bool) : Division :=
  if profile.sectorsPerCluster ≤ 128 then
    ⟨sectors, sectorBytes, profile.sectorsPerCluster, profile.alignment, .fat32, []⟩
  else if bigClusters then
    let ratio := profile.sectorsPerCluster / 128
    ⟨sectors / ratio, sectorBytes * ratio, 128, profile.alignment / ratio, .fat32,
      [.largeSectors (sectorBytes * ratio) (128 * (sectorBytes * ratio) / 1024)]⟩
  else
    ⟨sectors, sectorBytes, 128, profile.alignment, .fat32, [.clustersLimited]⟩

/-- The division of a card with the given number of sectors. -/
def Division.forCapacity (sectors : Nat) (forceFat32 bigClusters : Bool) :
    Except FormatError Division :=
  if sectors = 0 then .error (.infeasible .noCapacity)
  else if sectors < leastSectors then .error (.deviceTooSmall sectors leastSectors)
  else match profileFor sectors with
    | none => .error (.infeasible (.capacityTooLarge sectors))
    | some profile =>
      if forceFat32 && profile.filesystem == .exFat then
        .ok (Division.forcedFat32 sectors profile bigClusters)
      else .ok (Division.usual sectors profile)

namespace Division

/-- The search task for FAT entries of the given width. -/
def task (division : Division) (entryBits : Nat) : FatTask :=
  ⟨division.totalSectors, entryBits, division.bytesPerSector, division.sectorsPerCluster,
    division.alignment⟩

/-- The regions of a small volume. FAT12 is kept while the clusters can be numbered
with it, and also where they are too many for FAT12 but too few for FAT16. -/
def smallArea (division : Division) : Attempt FormatError (Filesystem × FatArea) := do
  if division.filesystem = .fat16 then
    return (.fat16, ← (division.task 16).fixedRootArea)
  let area ← (division.task 12).fixedRootArea
  if area.clusters ≤ 4084 then
    return (.fat12, area)
  let wide ← (division.task 16).fixedRootArea
  if 4087 ≤ wide.clusters then
    return (.fat16, wide)
  return (.fat12, ← (division.task 12).trimToFat12 area)

/-- The regions of a FAT32 volume, with the task that they solve. -/
def fat32Area (division : Division) : Attempt FormatError (FatTask × FatArea) := do
  let (task, area) ← (division.task 32).enoughClusters
  task.fittingReserved area

/-- The regions of an exFAT volume: the FAT fills the second half of the alignment
unit in front of the heap. -/
def exFatArea (division : Division) : Checked ExFatArea := do
  let length ← Checked.subtract division.totalSectors division.alignment
  let clusters ← Checked.divide (division.totalSectors - 2 * division.alignment)
    division.sectorsPerCluster
  return ⟨division.alignment, length, division.alignment / 2, division.alignment / 2,
    division.alignment, clusters⟩

/-- The warning about an alignment that had to be reduced. -/
def alignmentWarning (division : Division) (alignment : Nat) : List Warning :=
  if alignment = division.alignment then [] else [.alignmentReduced alignment]

/-- The parameters of a divided card, and what there is to say about them. -/
def params (division : Division) (geometry : Nat × Nat) :
    Attempt FormatError (Params × List Warning) :=
  match division.filesystem with
  | .exFat => do
    let area ← division.exFatArea
    return (⟨division.totalSectors, division.bytesPerSector, division.sectorsPerCluster,
      division.alignment, .exFat, geometry.1, geometry.2, .exFat area⟩, [])
  | .fat32 => do
    let (task, area) ← division.fat32Area
    return (⟨division.totalSectors, division.bytesPerSector, task.sectorsPerCluster,
      task.alignment, .fat32, geometry.1, geometry.2, .fat area⟩,
      division.alignmentWarning task.alignment)
  | _ => do
    let (filesystem, area) ← division.smallArea
    return (⟨division.totalSectors, division.bytesPerSector, division.sectorsPerCluster,
      division.alignment, filesystem, geometry.1, geometry.2, .fat area⟩, [])

end Division

/-- The result of planning: the parameters or the reason why there are none, and the
warnings raised on the way. -/
structure Plan where
  warnings : List Warning
  outcome : Except FormatError Params

/-- Plans a format for a device with the given number of 512-byte sectors. -/
def plan (sectors : Nat) (forceFat32 bigClusters : Bool) : Checked Plan :=
  match Division.forCapacity sectors forceFat32 bigClusters with
  | .error reason => return ⟨[], .error reason⟩
  | .ok division => do
    match ← (division.params (geometryFor sectors)).outcome with
    | .error reason => return ⟨division.warnings, .error reason⟩
    | .ok (params, warnings) =>
      match ← params.validate.outcome with
      | .error reason => return ⟨division.warnings ++ warnings, .error reason⟩
      | .ok () => return ⟨division.warnings ++ warnings, .ok params⟩

end CardFormat
