/-
This file says what the entry of a partition holds. Blocks and addresses are those that the
parameters give, counted in device sectors whatever the size of a logical sector is. No
block number of a planned card is cut off when it is put in its word.
-/

import CardFormat.Proofs.Params.Usable

namespace CardFormat

namespace Params

/-- The first device sector of the partition. -/
def firstBlock (params : Params) : Nat := params.partitionStart * params.sectorRatio

/-- The device sectors that the logical sectors of the card cover. -/
def blocks (params : Params) : Nat := params.totalSectors * params.sectorRatio

namespace Usable

variable {params : Params}

/-- A logical sector is made of whole device sectors. -/
theorem sectorRatio_mul (usable : params.Usable) :
    params.sectorRatio * sectorBytes = params.bytesPerSector :=
  Nat.div_mul_cancel usable.sectorBytes_dvd

theorem firstBlock_mul (usable : params.Usable) :
    params.firstBlock * sectorBytes = params.partitionStart * params.bytesPerSector := by
  rw [firstBlock, Nat.mul_assoc, usable.sectorRatio_mul]

theorem blocks_mul (usable : params.Usable) :
    params.blocks * sectorBytes = params.totalSectors * params.bytesPerSector := by
  rw [blocks, Nat.mul_assoc, usable.sectorRatio_mul]

theorem firstBlock_lt (usable : params.Usable) : params.firstBlock < params.blocks :=
  Nat.mul_lt_mul_of_pos_right usable.partitionStart_lt usable.sectorRatio_pos

end Usable

end Params

/-- The entry holds what the parameters say about the partition. -/
structure PartitionEntry.Describes (entry : PartitionEntry) (params : Params) (bootable : Bool) :
    Prop where
  bootable_eq : entry.bootable = bootable
  startAddress_eq : DiskAddress.ofBlock params.firstBlock params.heads params.sectorsPerTrack =
    .ok entry.startAddress
  type_eq : partitionType params.filesystem (params.blocks - params.firstBlock) params.blocks =
    .ok entry.type
  endAddress_eq : DiskAddress.ofBlock (params.blocks - 1) params.heads params.sectorsPerTrack =
    .ok entry.endAddress
  startBlock_eq : entry.startBlock = UInt32.ofNat params.firstBlock
  blockCount_eq : entry.blockCount = UInt32.ofNat (params.blocks - params.firstBlock)

/-- An entry that was made describes its parameters. -/
theorem PartitionEntry.describes_of_ofParams {params : Params} {bootable : Bool}
    {entry : PartitionEntry} (made : ofParams params bootable = .ok entry) :
    entry.Describes params bootable := by
  unfold ofParams at made
  obtain ⟨start, startResult, made⟩ := Checked.bind_eq_ok_iff.1 made
  obtain ⟨-, rfl⟩ := Checked.word64_eq_ok_iff.1 startResult
  obtain ⟨total, totalResult, made⟩ := Checked.bind_eq_ok_iff.1 made
  obtain ⟨-, rfl⟩ := Checked.word64_eq_ok_iff.1 totalResult
  obtain ⟨count, countResult, made⟩ := Checked.bind_eq_ok_iff.1 made
  obtain rfl := (Nat.sub_eq_of_eq_add' (Checked.subtract_eq_ok_iff.1 countResult).symm).symm
  obtain ⟨startAddress, startAddressResult, made⟩ := Checked.bind_eq_ok_iff.1 made
  obtain ⟨type, typeResult, made⟩ := Checked.bind_eq_ok_iff.1 made
  obtain ⟨last, lastResult, made⟩ := Checked.bind_eq_ok_iff.1 made
  obtain rfl := (Nat.sub_eq_of_eq_add' (Checked.subtract_eq_ok_iff.1 lastResult).symm).symm
  obtain ⟨endAddress, endAddressResult, made⟩ := Checked.bind_eq_ok_iff.1 made
  cases made
  exact ⟨rfl, startAddressResult, typeResult, endAddressResult, rfl, rfl⟩

/-- There is an entry for usable parameters. -/
theorem Params.Usable.entry_eq_ok {params : Params} (usable : params.Usable) (bootable : Bool) :
    ∃ entry, PartitionEntry.ofParams params bootable = .ok entry ∧
      entry.Describes params bootable := by
  obtain ⟨entry, made⟩ := PartitionEntry.ofParams_eq_ok usable.heads_pos usable.track_pos
    usable.sectorRatio_pos usable.blocks_fit usable.partitionStart_lt bootable
  exact ⟨entry, made, PartitionEntry.describes_of_ofParams made⟩

namespace PartitionEntry.Describes

variable {entry : PartitionEntry} {params : Params} {bootable : Bool}

theorem startBlock_toNat (describes : entry.Describes params bootable)
    (fits : params.firstBlock < 2 ^ 32) : entry.startBlock.toNat = params.firstBlock := by
  rw [describes.startBlock_eq]
  exact UInt32.toNat_ofNat_of_lt' fits

theorem blockCount_toNat (describes : entry.Describes params bootable)
    (fits : params.blocks - params.firstBlock < 2 ^ 32) :
    entry.blockCount.toNat = params.blocks - params.firstBlock := by
  rw [describes.blockCount_eq]
  exact UInt32.toNat_ofNat_of_lt' fits

end PartitionEntry.Describes

/-! ### Planned cards -/

namespace Params.PlannedFor

variable {params : Params} {sectors : Nat}

/-- The logical sectors cover the card but for less than one of them. -/
theorem blocks_le (planned : params.PlannedFor sectors) :
    params.blocks ≤ sectors ∧ sectors < params.blocks + params.sectorRatio := by
  have covered := planned.usable.blocks_mul
  have ratio := planned.usable.sectorRatio_mul
  have capacity := planned.capacity_le
  have others := planned.capacity_gt
  unfold sectorBytes at covered ratio capacity others
  omega

/-- The first sector of the card is not in the partition. -/
theorem firstBlock_pos (planned : params.PlannedFor sectors) : 0 < params.firstBlock := by
  refine Nat.mul_pos ?_ planned.usable.sectorRatio_pos
  have regions := planned.valid.layout
  have solved := planned.layout
  have alignment := pos_of_power planned.valid.alignment_power
  obtain ⟨total, bytes, cluster, alignment, filesystem, heads, track, layout⟩ := params
  cases layout with
  | fat area => exact Nat.pos_of_ne_zero regions.start_ne
  | exFat area =>
    rw [partitionStart, solved.area_eq]
    exact alignment

/-- No block number of a planned card is cut off. -/
theorem blocks_kept (planned : params.PlannedFor sectors) {entry : PartitionEntry}
    {bootable : Bool} (describes : entry.Describes params bootable) :
    entry.startBlock.toNat = params.firstBlock ∧
      entry.blockCount.toNat = params.blocks - params.firstBlock := by
  have inside := planned.usable.firstBlock_lt
  have start := planned.firstBlock_pos
  have covered := planned.blocks_le.1
  have high := planned.high
  exact ⟨describes.startBlock_toNat (by omega), describes.blockCount_toNat (by omega)⟩

end Params.PlannedFor

end CardFormat
