/-
This file proves what it means that the check accepts parameters: a card can be written with
them, and every number on it is that of the parameters, none of them cut off. Two things are
not known before the layout of an exFAT volume is made, whether its heap holds what the volume
itself needs and whether the size of an erase block can be recorded. If one of them fails, the
volume is refused. Planned parameters never come to that.
-/

import CardFormat.Proofs.ExFat.Image
import CardFormat.Proofs.Fat.Driver
import CardFormat.Proofs.Fat.Image
import CardFormat.Proofs.Format.Stretches
import CardFormat.Proofs.Partition.Entry

namespace CardFormat

/-! ### Parameters that can be placed -/

namespace Params

/-- The volume lies behind the partition table, the FATs behind the boot record, and the numbers
of the partition fit their words. -/
structure Placeable (params : Params) : Prop where
  startBlock_lt : params.firstBlock < 2 ^ 32
  blockCount_lt : params.blocks - params.firstBlock < 2 ^ 32
  volume : match params.layout with
    | .fat area => 0 < area.reserved
    | .exFat area => 0 < area.start ∧ params.alignment * params.bytesPerSector < 2 ^ 64

/-- An exFAT volume has a layout; a FAT volume does not need one. -/
def HasLayout (params : Params) : Prop :=
  match params.layout with
  | .fat _ => True
  | .exFat area => ExFat.Layout.Possible params area ExFat.upcaseTable.length

/-- The numbers on a card are those of the parameters: the blocks of the partition in its entry,
and in each boot sector of the volume the regions. -/
structure RecordedOn (params : Params) (card : List UInt8) : Prop where
  startBlock : Sector.readNumber card PartitionTable.startBlockOffset 4 = params.firstBlock
  blockCount : Sector.readNumber card PartitionTable.blockCountOffset 4 =
    params.blocks - params.firstBlock
  volume : match params.layout with
    | .fat area => ∀ sector ∈ Fat.bootSectors params.filesystem,
      (Fat.BootNumbers.read (Sector.read card ((area.start + sector) * params.bytesPerSector)
        params.bytesPerSector)).Record params area
    | .exFat area => ∀ sector ∈ ExFat.bootRegionSectors,
      (ExFat.BootNumbers.read (Sector.read card ((area.start + sector) * params.bytesPerSector)
        params.bytesPerSector)).Record (.described params area ExFat.upcaseTable.length) ∧
      Sector.readNumber card
        ((area.start + sector + ExFat.mediumSectorIndex) * params.bytesPerSector + 16) 4 =
          params.alignment * params.bytesPerSector

/-- There is a partition table with a single entry, which describes the partition. -/
theorem Usable.table_eq_ok {params : Params} (usable : params.Usable) (signature : UInt32) :
    ∃ entry, PartitionTable.ofParams params signature false = .ok ⟨signature, [entry]⟩ ∧
      entry.Describes params false := by
  obtain ⟨entry, made, describes⟩ := usable.entry_eq_ok false
  refine ⟨entry, ?_, describes⟩
  rw [PartitionTable.ofParams, made]
  rfl

theorem Placeable.fits {params : Params} {area : FatArea} (placeable : params.Placeable)
    (usable : params.Usable) (layout : params.layout = .fat area) : Fat.Fits params area where
  toUsable := usable
  layout := layout
  reserved_pos := by
    have volume := placeable.volume
    rw [layout] at volume
    exact volume
  start_lt := by
    have start := placeable.startBlock_lt
    rw [firstBlock, partitionStart, layout] at start
    exact Nat.lt_of_le_of_lt (Nat.le_mul_of_pos_right _ usable.sectorRatio_pos) start

namespace PlannedFor

variable {params : Params} {sectors : Nat}

/-- Planned parameters can always be placed. -/
theorem placeable (planned : params.PlannedFor sectors) : params.Placeable := by
  have start := planned.firstBlock_pos
  have inside := planned.usable.firstBlock_lt
  have covered := planned.blocks_le.1
  have high := planned.high
  have solved := planned.layout
  refine ⟨by omega, by omega, ?_⟩
  cases layout : params.layout with
  | fat area =>
    rw [layout] at solved
    exact solved.reserved_pos
  | exFat area =>
    rw [layout] at solved
    have eraseBlock := (ExFat.possible_of_planned solved).2
    rw [firstBlock, partitionStart, layout] at start
    exact ⟨Nat.pos_of_mul_pos_right start, by omega⟩

/-- A planned exFAT volume has a layout. -/
theorem hasLayout (planned : params.PlannedFor sectors) : params.HasLayout := by
  have solved := planned.layout
  unfold HasLayout
  cases layout : params.layout with
  | fat area => trivial
  | exFat area =>
    rw [layout] at solved
    exact ExFat.possible_of_planned solved

end PlannedFor

end Params

/-! ### The card is written -/

/-- The device is an image that grows and takes every write. -/
structure MemoryDevice.Growing (device : MemoryDevice) : Prop where
  regularFile : device.regularFile = true
  opened : device.closed = false
  unlimited : device.writeLimit = none

section

variable {params : Params} {device : MemoryDevice} {label : Label} {signature serial : UInt32}
  {notes : List Warning}

/-- A volume that can be placed is found again on the card, each structure where it was placed.
So is the entry of the partition. -/
theorem writeCard_found (usable : params.Usable) (placeable : params.Placeable)
    (growing : device.Growing) {placements : List Placement} {volume : List Field}
    {finish : Nat}
    (volumeResult : volumePlacements params label serial = .ok (placements.map .ok))
    (joins : Stream.Joins (placements.map Placement.field) (volume ++ [⟨finish, []⟩]))
    (rising : Stream.Rising sectorBytes (volume ++ [⟨finish, []⟩]))
    (whole : finish % sectorBytes = 0) :
    ∃ final, throughWriter (writeCard ⟨params, label, notes⟩ ⟨.ok signature, serial⟩) device =
        .ok (signature, finish) final ∧
      Sector.readNumber final.data.toList PartitionTable.startBlockOffset 4 = params.firstBlock ∧
      Sector.readNumber final.data.toList PartitionTable.blockCountOffset 4 =
        params.blocks - params.firstBlock ∧
      ∀ field ∈ volume,
        Sector.read final.data.toList field.offset field.bytes.length = field.bytes := by
  obtain ⟨entry, tableResult, describes⟩ := usable.table_eq_ok signature
  obtain ⟨final, image, result, written, consists⟩ := writeCard_memory ⟨params, label, notes⟩
    signature serial growing.opened growing.unlimited (.inl growing.regularFile)
    tableResult volumeResult joins rising whole
  have found : ∀ field ∈ cardFields ⟨signature, [entry]⟩ volume,
      Sector.read final.data.toList field.offset field.bytes.length = field.bytes := by
    intro field member
    have inside := consists.inside field.place (List.mem_map_of_mem member)
    rw [written.data_eq, Sector.read_append_left (consists.length_eq.symm ▸ inside)]
    exact consists.read_field field member
  rw [cardFields, List.forall_mem_cons] at found
  -- What is left to read are the numbers of the partition in the table.
  obtain ⟨table, volume⟩ := found
  have numbers := PartitionTable.readNumber_encode signature entry
  have size := PartitionTable.length_encode ⟨signature, [entry]⟩
  have inTable : ∀ offset, offset + 4 ≤ sectorBytes →
      Sector.readNumber final.data.toList offset 4 =
        Sector.readNumber (PartitionTable.encode ⟨signature, [entry]⟩) offset 4 := by
    intro offset inside
    rw [← Sector.readNumber_of_read table (size.symm ▸ inside), Nat.zero_add]
  refine ⟨final, result, ?_, ?_, volume⟩
  · rw [inTable _ (by decide), numbers.1, describes.startBlock_toNat placeable.startBlock_lt]
  · rw [inTable _ (by decide), numbers.2, describes.blockCount_toNat placeable.blockCount_lt]

/-- A card with a FAT volume is written, and its numbers are those of the parameters. -/
theorem writeCard_recordsFat {area : FatArea} (usable : params.Usable)
    (placeable : params.Placeable) (layout : params.layout = .fat area)
    (growing : device.Growing) (label : FatLabel) (signature serial : UInt32)
    (notes : List Warning) :
    ∃ final finish,
      throughWriter (writeCard ⟨params, .fat label, notes⟩ ⟨.ok signature, serial⟩) device =
        .ok (signature, finish) final ∧ params.RecordedOn final.data.toList := by
  have fits := placeable.fits usable layout
  obtain ⟨placements, volume, placed, structures, joins, rising, -⟩ :=
    Fat.placements_eq_ok fits label serial
  have volumeResult : volumePlacements params (.fat label) serial = .ok (placements.map .ok) :=
    placed
  obtain ⟨final, result, startBlock, blockCount, found⟩ := writeCard_found usable placeable growing
    volumeResult joins (Stream.rising_of_le fits.sectorBytes_le_sectorPlace rising)
    fits.volumeEnd_whole
  obtain ⟨boot, members, length_eq, record⟩ := Fat.boot_mem_of_volumeFields fits structures
  refine ⟨final, _, result, startBlock, blockCount, ?_⟩
  rw [layout]
  intro sector boots
  have read := found _ (members sector boots)
  rw [length_eq] at read
  rw [← Fat.sectorPlace, read]
  exact record

/-- A card with an exFAT volume is written if the volume has a layout. Its numbers are those of
the parameters. -/
theorem writeCard_recordsExFat {area : ExFatArea} (usable : params.Usable)
    (placeable : params.Placeable) (layout : params.layout = .exFat area)
    (possible : ExFat.Layout.Possible params area ExFat.upcaseTable.length)
    (growing : device.Growing) (label : ExFatLabel) (signature serial : UInt32)
    (notes : List Warning) :
    ∃ final finish,
      throughWriter (writeCard ⟨params, .exFat label, notes⟩ ⟨.ok signature, serial⟩) device =
        .ok (signature, finish) final ∧ params.RecordedOn final.data.toList := by
  have start := placeable.volume
  rw [layout] at start
  have described := ExFat.Layout.ofParams_of_possible usable.valid layout possible
  have sound := ExFat.Layout.sound_described usable.valid usable.bytes_fit layout possible.1
  have recordable := ExFat.Layout.recordable_described usable.valid layout sound
  obtain ⟨placements, region, volume, placed, regionResult, -, structures, fields,
    rising⟩ := ExFat.placements_eq_ok sound described rfl label serial
  have volumeResult : volumePlacements params (.exFat label) serial = .ok (placements.map .ok) :=
    placed
  obtain ⟨final, result, startBlock, blockCount, found⟩ := writeCard_found usable placeable growing
    volumeResult (fields ▸ Stream.Joins.refl _)
    (Stream.rising_of_le (sound.sectorBytes_le_sectorPlace start.1) rising) sound.volumeEnd_whole
  refine ⟨final, _, result, startBlock, blockCount, ?_⟩
  rw [layout]
  intro sector boots
  obtain ⟨boot, eraseBlock⟩ := ExFat.read_of_bootRegion recordable possible.2 regionResult
    (found _ (ExFat.region_mem_of_volumeFields sound structures boots))
  refine ⟨boot, ?_⟩
  rw [Nat.add_mul, Nat.add_assoc]
  exact eraseBlock

/-- If the volume is refused, so is the card. -/
theorem writeCard_refuses (usable : params.Usable) (growing : device.Growing) {error : IoError}
    (volumeResult : volumePlacements params label serial = .error (.refused error)) :
    ∃ final, throughWriter (writeCard ⟨params, label, notes⟩ ⟨.ok signature, serial⟩) device =
      .error (.refused (.filesystemFailed error)) final := by
  obtain ⟨table, tableResult⟩ := usable.partitionTable_eq_ok signature false
  -- The partition table waits for its block to fill, so the device takes no write at all.
  have takes : Writer.Takes (device.Recorded blockBytes) 0 blockBytes sectorBytes := by
    refine MemoryDevice.takes_recorded _ (fun _ => growing.opened) ?_ (.inl growing.regularFile)
    intro bound limited
    rw [growing.unlimited] at limited
    cases limited
  exact writeCard_refused takes (Nat.le_refl _) (device.recorded_nil _) tableResult volumeResult
    (Nat.le_refl _)

/-- A card whose exFAT volume has no layout is refused. -/
theorem writeCard_withoutLayout {area : ExFatArea} (usable : params.Usable)
    (placeable : params.Placeable) (layout : params.layout = .exFat area)
    (impossible : ¬ExFat.Layout.Possible params area ExFat.upcaseTable.length)
    (growing : device.Growing) (label : ExFatLabel) (signature serial : UInt32)
    (notes : List Warning) :
    ∃ message final,
      throughWriter (writeCard ⟨params, .exFat label, notes⟩ ⟨.ok signature, serial⟩) device =
        .error (.refused (.filesystemFailed ⟨.invalidInput, message⟩)) final := by
  have eraseBlock := placeable.volume
  rw [layout] at eraseBlock
  obtain ⟨message, refused⟩ := ExFat.Layout.ofParams_of_not_possible usable.valid layout
    (by rw [ExFat.length_upcaseTable]; decide) eraseBlock.2 impossible
  have volumeResult : volumePlacements params (.exFat label) serial =
      .error (.refused ⟨.invalidInput, message⟩) := by
    rw [volumePlacements, ExFat.placements, refused]
    rfl
  exact ⟨message, writeCard_refuses usable growing volumeResult⟩

end

/-- Parameters that the check accepts are safe to write a card with, if they can be placed. Either
writing succeeds and all numbers on the card are those of the parameters, or the volume has no
layout and is refused for that. -/
theorem writeCard_accepted {params : Params} (accepted : params.validate = .ok ())
    (heads : 1 ≤ params.heads ∧ params.heads ≤ 255)
    (track : 1 ≤ params.sectorsPerTrack ∧ params.sectorsPerTrack ≤ 63)
    (fit : params.totalSectors * params.bytesPerSector < 2 ^ 64) (placeable : params.Placeable)
    {text : Option String} {label : Label}
    (labelled : Label.forFilesystem params.filesystem text = .ok label) {device : MemoryDevice}
    (growing : device.Growing) (signature serial : UInt32) (notes : List Warning) :
    (params.HasLayout → ∃ final finish,
      throughWriter (writeCard ⟨params, label, notes⟩ ⟨.ok signature, serial⟩) device =
        .ok (signature, finish) final ∧ params.RecordedOn final.data.toList) ∧
    (¬params.HasLayout → ∃ message final,
      throughWriter (writeCard ⟨params, label, notes⟩ ⟨.ok signature, serial⟩) device =
        .error (.refused (.filesystemFailed ⟨.invalidInput, message⟩)) final) := by
  have valid := validate_eq_ok_iff.1 accepted
  have usable : params.Usable := ⟨valid, heads.1, heads.2, track.1, track.2, fit⟩
  unfold Params.HasLayout
  obtain ⟨area, name, layout, rfl⟩ | ⟨area, name, layout, rfl⟩ := layout_of_label valid labelled
  · rw [layout]
    refine ⟨fun _ => ?_, fun impossible => absurd trivial impossible⟩
    exact writeCard_recordsFat usable placeable layout growing name signature serial notes
  · rw [layout]
    refine ⟨fun possible => ?_, fun impossible => ?_⟩
    · exact writeCard_recordsExFat usable placeable layout possible growing name signature serial
        notes
    · exact writeCard_withoutLayout usable placeable layout impossible growing name signature
        serial notes

/-- A heap of fourteen clusters holds what the volume itself needs, and no more. -/
theorem writeCard_accepted_fourteenClusters :
    ∃ final finish, throughWriter (writeCard
        ⟨⟨41, 512, 1, 1, .exFat, 2, 16, .exFat ⟨1, 40, 24, 2, 26, 14⟩⟩,
          .exFat ⟨"", [], by decide⟩, []⟩ ⟨.ok 5, 7⟩) (MemoryDevice.image 0) =
        .ok (5, finish) final ∧
      Params.RecordedOn ⟨41, 512, 1, 1, .exFat, 2, 16, .exFat ⟨1, 40, 24, 2, 26, 14⟩⟩
        final.data.toList := by
  refine (writeCard_accepted rfl (by decide) (by decide) (by decide)
    ⟨by decide, by decide, by decide⟩
    (show Label.forFilesystem .exFat none = .ok (.exFat ⟨"", [], by decide⟩) from rfl)
    ⟨rfl, rfl, rfl⟩ 5 7 []).1 ?_
  rw [Params.HasLayout, ExFat.length_upcaseTable]
  decide

/-- One cluster less, and the card is refused, although the check accepts its parameters and the
volume could be placed. -/
theorem writeCard_refused_thirteenClusters :
    Params.validate ⟨40, 512, 1, 1, .exFat, 2, 16, .exFat ⟨1, 39, 24, 2, 26, 13⟩⟩ = .ok () ∧
      Params.Usable ⟨40, 512, 1, 1, .exFat, 2, 16, .exFat ⟨1, 39, 24, 2, 26, 13⟩⟩ ∧
      Params.Placeable ⟨40, 512, 1, 1, .exFat, 2, 16, .exFat ⟨1, 39, 24, 2, 26, 13⟩⟩ ∧
      Label.forFilesystem .exFat none = .ok (.exFat ⟨"", [], by decide⟩) ∧
      (MemoryDevice.image 0).Growing ∧
      ∃ final, throughWriter (writeCard
          ⟨⟨40, 512, 1, 1, .exFat, 2, 16, .exFat ⟨1, 39, 24, 2, 26, 13⟩⟩,
            .exFat ⟨"", [], by decide⟩, []⟩ ⟨.ok 5, 7⟩) (MemoryDevice.image 0) =
        .error (.refused (.filesystemFailed
          ⟨.invalidInput, "13 clusters cannot hold 14 system clusters"⟩)) final := by
  have accepted : Params.validate
      ⟨40, 512, 1, 1, .exFat, 2, 16, .exFat ⟨1, 39, 24, 2, 26, 13⟩⟩ = .ok () := rfl
  have usable : Params.Usable ⟨40, 512, 1, 1, .exFat, 2, 16, .exFat ⟨1, 39, 24, 2, 26, 13⟩⟩ :=
    ⟨validate_eq_ok_iff.1 accepted, by decide, by decide, by decide, by decide, by decide⟩
  have growing : (MemoryDevice.image 0).Growing := ⟨rfl, rfl, rfl⟩
  refine ⟨accepted, usable, ⟨by decide, by decide, by decide⟩, rfl, growing,
    writeCard_refuses usable growing ?_⟩
  rw [volumePlacements, ExFat.placements, ExFat.length_upcaseTable]
  rfl

end CardFormat
