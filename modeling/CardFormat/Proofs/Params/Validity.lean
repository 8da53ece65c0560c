/-
This file says what the check of a set of parameters accepts, as a list of facts: the
check succeeds exactly when all of them hold. That nothing computed on the way leaves a
machine word is one of them.
-/

import CardFormat.Params.Validate
import CardFormat.Proofs.Attempt

namespace CardFormat

theorem require_eq_ok_iff {condition : Bool} {reason : Infeasibility} :
    require condition reason = .ok () ↔ condition = true := by
  cases condition with
  | false => simp [require, Attempt.refuse]
  | true => simp [require]

/-! ### What is accepted -/

/-- The least and most clusters of a volume. -/
def clusterRange : Filesystem → Nat × Nat
  | .fat12 => (1, 4084)
  | .fat16 => (4087, 65524)
  | .fat32 => (65525, 0x0FFFFFF6)
  | .exFat => (1, exFatClusterLimit)

theorem fatClusterRange_eq_some_iff {filesystem : Filesystem} {range : Nat × Nat} :
    fatClusterRange filesystem = some range ↔
      filesystem ≠ .exFat ∧ clusterRange filesystem = range := by
  cases filesystem <;> simp [fatClusterRange, clusterRange]

/-- The sectors of the fixed root directory. -/
def Params.rootSectorCount (params : Params) : Nat :=
  (params.rootEntries * directoryEntryBytes + params.bytesPerSector - 1) / params.bytesPerSector

theorem Params.rootSectors_eq {params : Params} (positive : 0 < params.bytesPerSector) :
    params.rootSectors = .ok params.rootSectorCount :=
  Checked.ceilDivide_of_pos positive

/-- The regions of a FAT volume that the check accepts. -/
structure ValidFat (params : Params) (area : FatArea) : Prop where
  size_eq : area.size = area.reserved + 2 * area.fatSectors + params.rootSectorCount
  size_fits : area.size < 2 ^ 64
  isFat : params.filesystem ≠ .exFat
  clusters_ge : (clusterRange params.filesystem).1 ≤ area.clusters
  clusters_le : area.clusters ≤ (clusterRange params.filesystem).2
  table_fits : area.fatSectors * params.bytesPerSector * 8 < 2 ^ 64
  entries_le : area.clusters + 2 ≤
    area.fatSectors * params.bytesPerSector * 8 / params.filesystem.entryBits
  start_ne : area.start ≠ 0
  end_fits : area.start + area.size + area.clusters * params.sectorsPerCluster < 2 ^ 64
  end_le : area.start + area.size + area.clusters * params.sectorsPerCluster ≤ params.totalSectors
  cluster_le : params.sectorsPerCluster ≤ 128
  reserved_le : area.reserved ≤ 0xFFFF
  reserved_ge : params.filesystem = .fat32 → fat32LeastReserved ≤ area.reserved
  fatSectors_le : params.filesystem ≠ .fat32 → area.fatSectors ≤ 0xFFFF
  start_le : params.partitionStart ≤ params.totalSectors
  partition_le : params.totalSectors - params.partitionStart ≤ 0xFFFFFFFF

/-- FATs that hold entries are not empty. -/
theorem ValidFat.fatSectors_pos {params : Params} {area : FatArea} (valid : ValidFat params area) :
    0 < area.fatSectors := by
  have entries := valid.entries_le
  refine Nat.pos_of_ne_zero fun empty => ?_
  rw [empty, Nat.zero_mul, Nat.zero_mul, Nat.zero_div] at entries
  omega

/-- The regions of an exFAT volume that the check accepts. -/
structure ValidExFat (params : Params) (area : ExFatArea) : Prop where
  isExFat : params.filesystem = .exFat
  clusters_ge : 1 ≤ area.clusters
  clusters_le : area.clusters ≤ exFatClusterLimit
  fatOffset_ge : 24 ≤ area.fatOffset
  fatEnd_fits : area.fatOffset + area.fatLength < 2 ^ 64
  fatEnd_le : area.fatOffset + area.fatLength ≤ area.heapOffset
  table_fits : area.fatLength * params.bytesPerSector < 2 ^ 64
  entries_le : area.clusters + 2 ≤ area.fatLength * params.bytesPerSector / 4
  heapEnd_fits : area.heapOffset + area.clusters * params.sectorsPerCluster < 2 ^ 64
  heapEnd_le : area.heapOffset + area.clusters * params.sectorsPerCluster ≤ area.length
  end_fits : area.start + area.length < 2 ^ 64
  end_le : area.start + area.length ≤ params.totalSectors
  heapOffset_le : area.heapOffset ≤ 0xFFFFFFFF
  clusterBytes_le : params.clusterBytes ≤ 32 * 1024 * 1024

/-- The parameters that the check accepts. -/
structure Params.Valid (params : Params) : Prop where
  sector_power : isPowerOfTwo params.bytesPerSector = true
  sector_ge : 512 ≤ params.bytesPerSector
  sector_le : params.bytesPerSector ≤ 4096
  cluster_power : isPowerOfTwo params.sectorsPerCluster = true
  alignment_power : isPowerOfTwo params.alignment = true
  layout : match params.layout with
    | .fat area => ValidFat params area
    | .exFat area => ValidExFat params area

theorem validateFat_eq_ok_iff {params : Params} {area : FatArea}
    (positive : 0 < params.bytesPerSector) :
    validateFat params area = .ok () ↔ ValidFat params area := by
  simp only [validateFat, Params.rootSectors_eq positive, Attempt.lift_ok, Checked.ok_bind,
    Attempt.word64_bind_eq_ok_iff, Attempt.seq_eq_ok_iff, require_eq_ok_iff, beq_iff_eq]
  by_cases kind : params.filesystem = .exFat
  · -- There is no range for exFAT, and the check refuses.
    constructor
    · rintro ⟨-, -, rest⟩
      rw [kind] at rest
      simp [fatClusterRange, Attempt.refuse] at rest
    · intro valid
      exact absurd kind valid.isFat
  · have range : fatClusterRange params.filesystem =
        some ((clusterRange params.filesystem).1, (clusterRange params.filesystem).2) :=
      fatClusterRange_eq_some_iff.2 ⟨kind, rfl⟩
    rw [range]
    simp only [Attempt.word64_bind_eq_ok_iff, Attempt.seq_eq_ok_iff, require_eq_ok_iff,
      Params.partitionSectors, Attempt.subtract_bind_eq_ok_iff, Bool.and_eq_true, Bool.or_eq_true,
      decide_eq_true_eq, beq_iff_eq, bne_iff_ne]
    constructor
    · rintro ⟨sizeFits, size, ⟨least, most⟩, table, entries, start, finishFits, finish,
        ⟨cluster, reserved⟩, records, fats, sectors, partition⟩
      exact {
        size_eq := size
        size_fits := by rw [size]; exact sizeFits
        isFat := kind
        clusters_ge := least
        clusters_le := most
        table_fits := table
        entries_le := entries
        start_ne := start
        end_fits := finishFits
        end_le := finish
        cluster_le := cluster
        reserved_le := reserved
        reserved_ge := fun fat32 => records.resolve_left (not_not_intro fat32)
        fatSectors_le := fun other => fats.resolve_left other
        start_le := sectors
        partition_le := partition }
    · intro valid
      refine ⟨by rw [← valid.size_eq]; exact valid.size_fits, valid.size_eq,
        ⟨valid.clusters_ge, valid.clusters_le⟩, valid.table_fits, valid.entries_le, valid.start_ne,
        valid.end_fits, valid.end_le, ⟨valid.cluster_le, valid.reserved_le⟩, ?_, ?_,
        valid.start_le, valid.partition_le⟩
      · exact (Decidable.em (params.filesystem = .fat32)).elim
          (fun fat32 => .inr (valid.reserved_ge fat32)) .inl
      · exact (Decidable.em (params.filesystem = .fat32)).elim .inl
          fun other => .inr (valid.fatSectors_le other)

theorem validateExFat_eq_ok_iff {params : Params} {area : ExFatArea} :
    validateExFat params area = .ok () ↔ ValidExFat params area := by
  simp only [validateExFat, Attempt.word64_bind_eq_ok_iff, Attempt.seq_eq_ok_iff,
    require_eq_ok_iff, Bool.and_eq_true, decide_eq_true_eq, beq_iff_eq]
  constructor
  · rintro ⟨kind, ⟨least, most⟩, offset, fatFits, fatEnd, tableFits, entries, heapFits, heapEnd,
      volumeFits, volumeEnd, heap, cluster⟩
    exact ⟨kind, least, most, offset, fatFits, fatEnd, tableFits, entries, heapFits, heapEnd,
      volumeFits, volumeEnd, heap, cluster⟩
  · intro valid
    exact ⟨valid.isExFat, ⟨valid.clusters_ge, valid.clusters_le⟩, valid.fatOffset_ge,
      valid.fatEnd_fits, valid.fatEnd_le, valid.table_fits, valid.entries_le, valid.heapEnd_fits,
      valid.heapEnd_le, valid.end_fits, valid.end_le, valid.heapOffset_le, valid.clusterBytes_le⟩

/-- The check succeeds exactly when all facts hold. -/
theorem validate_eq_ok_iff {params : Params} : params.validate = .ok () ↔ params.Valid := by
  simp only [Params.validate, Attempt.seq_eq_ok_iff, require_eq_ok_iff, Bool.and_eq_true,
    decide_eq_true_eq]
  have regions (positive : 512 ≤ params.bytesPerSector) :
      (match params.layout with
        | .fat area => validateFat params area
        | .exFat area => validateExFat params area) = .ok () ↔
      match params.layout with
        | .fat area => ValidFat params area
        | .exFat area => ValidExFat params area := by
    cases params.layout with
    | fat area => exact validateFat_eq_ok_iff (by omega)
    | exFat area => exact validateExFat_eq_ok_iff
  constructor
  · rintro ⟨⟨⟨sector, least⟩, most⟩, cluster, alignment, layout⟩
    exact ⟨sector, least, most, cluster, alignment, (regions least).1 layout⟩
  · intro valid
    exact ⟨⟨⟨valid.sector_power, valid.sector_ge⟩, valid.sector_le⟩, valid.cluster_power,
      valid.alignment_power, (regions valid.sector_ge).2 valid.layout⟩

end CardFormat
