/-
This file says what the parameters of a card are known to satisfy, however it is divided:
they pass the check, and their regions solve the task of the volume. An area that solves
its task passes the check as soon as its numbers are in the ranges of its filesystem.
-/

import CardFormat.Params.Plan
import CardFormat.Proofs.Params.Settling
import CardFormat.Proofs.Params.Validity

namespace CardFormat

/-- The search task that a volume with the given parameters solves. -/
def Params.fatTask (params : Params) : FatTask :=
  ⟨params.totalSectors, params.filesystem.entryBits, params.bytesPerSector,
    params.sectorsPerCluster, params.alignment⟩

/-- The regions of an exFAT volume, as they are laid out for every capacity. -/
structure PlannedExFat (params : Params) (area : ExFatArea) : Prop where
  sector_eq : params.bytesPerSector = 512
  cluster : params.sectorsPerCluster ∈ [256, 512, 1024]
  alignment_eq : params.alignment = 128 * params.sectorsPerCluster
  area_eq : area = ⟨params.alignment, params.totalSectors - params.alignment,
    params.alignment / 2, params.alignment / 2, params.alignment,
    (params.totalSectors - 2 * params.alignment) / params.sectorsPerCluster⟩
  clusters_ge : 2 ^ 17 ≤ area.clusters
  clusters_le : area.clusters ≤ 2 ^ 22

/-- The parameters take up the division and the geometry, pass the check, and have regions
that were solved for. -/
structure Division.Planned (division : Division) (geometry : Nat × Nat) (params : Params) :
    Prop where
  total_eq : params.totalSectors = division.totalSectors
  sector_eq : params.bytesPerSector = division.bytesPerSector
  heads_eq : params.heads = geometry.1
  track_eq : params.sectorsPerTrack = geometry.2
  valid : params.Valid
  layout : match params.layout with
    | .fat area => params.fatTask.Settled params.rootSectorCount area
    | .exFat area => PlannedExFat params area

/-- There are parameters for the divided card. -/
def Division.Plannable (division : Division) (geometry : Nat × Nat) : Prop :=
  ∃ params warnings, division.params geometry = .ok (params, warnings) ∧
    division.Planned geometry params

/-- The parameters of a divided card with a FAT volume. -/
def Division.fatParams (division : Division) (geometry : Nat × Nat) (filesystem : Filesystem)
    (cluster alignment : Nat) (area : FatArea) : Params :=
  ⟨division.totalSectors, division.bytesPerSector, cluster, alignment, filesystem, geometry.1,
    geometry.2, .fat area⟩

/-- An area that solves its task passes the check if its numbers are in the ranges of its
filesystem. -/
theorem valid_of_settled {params : Params} {area : FatArea} (layout : params.layout = .fat area)
    (settled : params.fatTask.Settled params.rootSectorCount area)
    (sector : params.bytesPerSector ∈ [512, 1024, 2048, 4096])
    (cluster : isPowerOfTwo params.sectorsPerCluster = true)
    (cluster_le : params.sectorsPerCluster ≤ 128)
    (alignment : isPowerOfTwo params.alignment = true) (total : params.totalSectors ≤ 2 ^ 32)
    (isFat : params.filesystem ≠ .exFat)
    (clusters : (clusterRange params.filesystem).1 ≤ area.clusters ∧
      area.clusters ≤ (clusterRange params.filesystem).2)
    (reserved : area.reserved ≤ 0xFFFF)
    (records : params.filesystem = .fat32 → fat32LeastReserved ≤ area.reserved)
    (fatSectors : params.filesystem ≠ .fat32 → area.fatSectors ≤ 0xFFFF) : params.Valid := by
  have sectorFacts : isPowerOfTwo params.bytesPerSector = true ∧ 512 ≤ params.bytesPerSector ∧
      params.bytesPerSector ≤ 4096 := by
    simp only [List.mem_cons, List.not_mem_nil, or_false] at sector
    rcases sector with equal | equal | equal | equal <;> rw [equal] <;> decide
  obtain ⟨power, least, most⟩ := sectorFacts
  have alignmentPos : 0 < params.alignment := by
    obtain ⟨exponent, equal⟩ := isPowerOfTwo_iff.1 alignment
    rw [equal]
    exact Nat.two_pow_pos exponent
  have inside : area.start + area.size ≤ params.totalSectors := settled.inside
  have startLe : params.alignment ≤ area.start := settled.start_le
  have counted : area.clusters = (params.totalSectors - (area.start + area.size)) /
      params.sectorsPerCluster := settled.clusters_eq
  have product : area.clusters * params.sectorsPerCluster ≤
      params.totalSectors - (area.start + area.size) := by
    rw [counted]
    exact Nat.div_mul_le_self _ _
  have parts : area.size = area.reserved + 2 * area.fatSectors + params.rootSectorCount :=
    settled.size_eq
  have entries : (area.clusters + 2) * params.filesystem.entryBits ≤
      area.fatSectors * (params.bytesPerSector * 8) := by
    rw [settled.fatSectors_eq]
    exact (FatTask.isLeast_tableSectors (show 0 < params.fatTask.bytesPerSector from
      Nat.lt_of_lt_of_le (by decide) least) _).1
  have table : area.fatSectors * params.bytesPerSector ≤ 2 ^ 32 * 4096 :=
    Nat.mul_le_mul (by omega) most
  have partitionStart : params.partitionStart = area.start := by rw [Params.partitionStart, layout]
  refine ⟨power, least, most, cluster, alignment, ?_⟩
  rw [layout]
  exact {
    size_eq := parts
    size_fits := by omega
    isFat := isFat
    clusters_ge := clusters.1
    clusters_le := clusters.2
    table_fits := by omega
    entries_le := by
      rw [Nat.le_div_iff_mul_le params.filesystem.entryBits_pos, Nat.mul_assoc]
      exact entries
    start_ne := by omega
    end_fits := by omega
    end_le := by omega
    cluster_le := cluster_le
    reserved_le := reserved
    reserved_ge := records
    fatSectors_le := fatSectors
    start_le := by omega
    partition_le := by omega }

end CardFormat
