/-
This file proves that a partition and the volume in it are the same bytes. The entry of the
partition counts device sectors and the boot sector of the volume counts logical ones, from
different parameters, but both begin at the same byte and go on for as many. What is left of
the card behind them is less than a logical sector.
-/

import CardFormat.Proofs.Fat.Driver
import CardFormat.Proofs.Format.Stretches
import CardFormat.Proofs.Partition.Entry

namespace CardFormat

/-- The boot sector says that the volume has the bytes of the partition. What exFAT records of
its position and its clusters agrees with that. -/
def FillsPartition (layout : Layout) (entry : PartitionEntry) (boot : List UInt8) : Prop :=
  match layout with
  | .fat _ =>
    let numbers := Fat.BootNumbers.read boot
    numbers.totalSectors * numbers.bytesPerSector = entry.blockCount.toNat * sectorBytes
  | .exFat _ =>
    let numbers := ExFat.BootNumbers.read boot
    numbers.volumeLength * numbers.bytesPerSector = entry.blockCount.toNat * sectorBytes ∧
      numbers.partitionOffset = entry.startBlock.toNat ∧
      numbers.clusterCount =
        (numbers.volumeLength - numbers.heapOffset) / numbers.sectorsPerCluster

namespace Params.PlannedFor

variable {params : Params} {sectors : Nat} {entry : PartitionEntry}

/-- The bytes of the partition, from its start to the end of the last logical sector. -/
theorem partitionBytes_eq (planned : params.PlannedFor sectors)
    (countKept : entry.blockCount.toNat = params.blocks - params.firstBlock) :
    entry.blockCount.toNat * sectorBytes =
      (params.totalSectors - params.partitionStart) * params.bytesPerSector := by
  rw [countKept, Nat.sub_mul, planned.usable.blocks_mul, planned.usable.firstBlock_mul,
    ← Nat.sub_mul]

theorem fat_fillsPartition (planned : params.PlannedFor sectors) {area : FatArea}
    (layout : params.layout = .fat area)
    (startKept : entry.startBlock.toNat = params.firstBlock)
    (countKept : entry.blockCount.toNat = params.blocks - params.firstBlock) (label : FatLabel)
    (serial : UInt32) :
    ∃ record rest, Fat.placements params label serial = .ok (.ok record :: rest) ∧
      record.offset = entry.startBlock.toNat * sectorBytes ∧
      FillsPartition params.layout entry (record.bytes.toList.take params.bytesPerSector) := by
  have start : params.partitionStart = area.start := by rw [partitionStart, layout]
  obtain ⟨record, rest, placed, offset, recorded⟩ :=
    Fat.placements_begin (Fat.fits_of_planned planned layout) label serial
  refine ⟨record, rest, placed, ?_, ?_⟩
  · rw [offset, startKept, planned.usable.firstBlock_mul, start]
  · rw [layout]
    show _ = _
    rw [recorded.totalSectors, recorded.bytesPerSector, planned.partitionBytes_eq countKept, start]

theorem exFat_fillsPartition (planned : params.PlannedFor sectors) {area : ExFatArea}
    (layout : params.layout = .exFat area)
    (startKept : entry.startBlock.toNat = params.firstBlock)
    (countKept : entry.blockCount.toNat = params.blocks - params.firstBlock) (label : ExFatLabel)
    (serial : UInt32) :
    ∃ record rest, ExFat.placements params label serial = .ok (.ok record :: rest) ∧
      record.offset = entry.startBlock.toNat * sectorBytes ∧
      FillsPartition params.layout entry (record.bytes.toList.take params.bytesPerSector) := by
  have start : params.partitionStart = area.start := by rw [partitionStart, layout]
  have solved := planned.layout
  rw [layout] at solved
  obtain ⟨described, sound⟩ := ExFat.ofParams_of_planned planned.usable layout solved
  have recordable := ExFat.Layout.recordable_described planned.valid layout sound
  have bytes := planned.usable.firstBlock_mul
  obtain ⟨record, rest, placed, offset, recorded⟩ :=
    ExFat.placements_begin recordable described label serial
  replace recorded : (ExFat.BootNumbers.read
      (record.bytes.toList.take params.bytesPerSector)).Record
        (.described params area ExFat.upcaseTable.length) := recorded
  refine ⟨record, rest, placed, ?_, ?_⟩
  · rw [offset, startKept, bytes, start]
    rfl
  · have regions := solved.area_eq
    have length : area.length = params.totalSectors - area.start := by
      rw [regions]
    have clusters : area.clusters = (area.length - area.heapOffset) / params.sectorsPerCluster := by
      rw [regions]
      simp only
      rw [Nat.sub_sub, ← Nat.two_mul]
    rw [layout]
    refine ⟨?_, ?_, ?_⟩
    · rw [recorded.volumeLength, recorded.bytesPerSector, planned.partitionBytes_eq countKept,
        start, ← length]
      rfl
    · rw [recorded.partitionOffset, startKept]
      -- Sectors of an exFAT volume are device sectors.
      rw [solved.sector_eq] at bytes
      exact (Nat.eq_of_mul_eq_mul_right (by decide) (bytes.trans (by rw [start]; rfl))).symm
    · rw [recorded.clusterCount, recorded.volumeLength, recorded.heapOffset,
        recorded.sectorsPerCluster]
      exact clusters

end Params.PlannedFor

/-- The entry of a partition and the boot sector of the volume in it describe the same bytes.
No number of the entry is cut off, the first sector of the card is not in the partition, and
behind it less than a logical sector is left. -/
theorem partition_holds_volume {sectors : Nat} {forceFat32 bigClusters : Bool} {params : Params}
    {warnings : List Warning}
    (planned : plan sectors forceFat32 bigClusters = .ok ⟨warnings, .ok params⟩)
    {text : Option String} {label : Label}
    (labelled : Label.forFilesystem params.filesystem text = .ok label) (serial : UInt32)
    (bootable : Bool) :
    ∃ entry record rest, PartitionEntry.ofParams params bootable = .ok entry ∧
      entry.startBlock.toNat = params.partitionStart * params.sectorRatio ∧
      entry.blockCount.toNat =
        params.totalSectors * params.sectorRatio - params.partitionStart * params.sectorRatio ∧
      1 ≤ entry.startBlock.toNat ∧
      entry.startBlock.toNat + entry.blockCount.toNat ≤ sectors ∧
      sectors < entry.startBlock.toNat + entry.blockCount.toNat + params.sectorRatio ∧
      volumePlacements params label serial = .ok (.ok record :: rest) ∧
      record.offset = entry.startBlock.toNat * sectorBytes ∧
      FillsPartition params.layout entry (record.bytes.toList.take params.bytesPerSector) := by
  have facts := plannedFor_of_plan planned
  obtain ⟨entry, made, describes⟩ := facts.usable.entry_eq_ok bootable
  obtain ⟨startKept, countKept⟩ := facts.blocks_kept describes
  have inside := facts.usable.firstBlock_lt
  have start := facts.firstBlock_pos
  obtain ⟨covered, close⟩ := facts.blocks_le
  have volume : ∃ record rest, volumePlacements params label serial = .ok (.ok record :: rest) ∧
      record.offset = entry.startBlock.toNat * sectorBytes ∧
      FillsPartition params.layout entry (record.bytes.toList.take params.bytesPerSector) := by
    obtain ⟨area, name, layout, rfl⟩ | ⟨area, name, layout, rfl⟩ :=
      layout_of_label facts.valid labelled
    · exact facts.fat_fillsPartition layout startKept countKept name serial
    · exact facts.exFat_fillsPartition layout startKept countKept name serial
  obtain ⟨record, rest, placed, offset, fills⟩ := volume
  refine ⟨entry, record, rest, made, startKept, countKept, ?_, ?_, ?_, placed, offset, fills⟩
  · rw [startKept]
    exact start
  · omega
  · omega

/-- The smallest card with an exFAT volume gives it all sectors behind the first 32768. -/
theorem partition_holds_volume_aboveThirtyTwoGibibytes :
    ∃ entry record rest, PartitionEntry.ofParams
        ⟨67108865, 512, 256, 32768, .exFat, 255, 63,
          .exFat ⟨32768, 67076097, 16384, 16384, 32768, 261888⟩⟩ false = .ok entry ∧
      entry.startBlock = 32768 ∧ entry.blockCount = 67076097 ∧
      volumePlacements
        ⟨67108865, 512, 256, 32768, .exFat, 255, 63,
          .exFat ⟨32768, 67076097, 16384, 16384, 32768, 261888⟩⟩ (.exFat ⟨"", [], by decide⟩) 7 =
        .ok (.ok record :: rest) ∧
      record.offset = 32768 * 512 ∧
      FillsPartition (.exFat ⟨32768, 67076097, 16384, 16384, 32768, 261888⟩) entry
        (record.bytes.toList.take 512) := by
  obtain ⟨entry, record, rest, made, -, -, -, -, -, placed, offset, fills⟩ :=
    partition_holds_volume plan_aboveThirtyTwoGibibytes
      (show Label.forFilesystem .exFat none = .ok (.exFat ⟨"", [], by decide⟩) from rfl) 7 false
  cases made
  exact ⟨_, record, rest, rfl, rfl, rfl, placed, offset, fills⟩

end CardFormat
