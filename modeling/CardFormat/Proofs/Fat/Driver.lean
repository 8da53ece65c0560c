/-
This file proves that a driver reads the parameters of a FAT volume from its boot sector.
All numbers fit the fields they are recorded in. The number of clusters is not recorded: a
driver computes it from the sizes of the regions, and takes the filesystem from it. The
FATs are as small as the number of clusters allows.
-/

import CardFormat.Proofs.Fat.Volume

namespace CardFormat.Fat

variable {params : Params} {area : FatArea}

/-- The numbers of a boot sector are those of the parameters, none of them cut off. -/
structure BootNumbers.Record (numbers : BootNumbers) (params : Params) (area : FatArea) : Prop where
  bytesPerSector : numbers.bytesPerSector = params.bytesPerSector
  sectorsPerCluster : numbers.sectorsPerCluster = params.sectorsPerCluster
  reservedSectors : numbers.reservedSectors = area.reserved
  fats : numbers.fats = 2
  rootEntries : numbers.rootEntries = params.rootEntries
  totalSectors : numbers.totalSectors = params.totalSectors - area.start
  media : numbers.media = 0xF8
  fatSectors : numbers.fatSectors = area.fatSectors
  sectorsPerTrack : numbers.sectorsPerTrack = params.sectorsPerTrack
  heads : numbers.heads = params.heads
  hiddenSectors : numbers.hiddenSectors = area.start

theorem rootEntries_lt (params : Params) : params.rootEntries < 2 ^ 16 := by
  unfold Params.rootEntries
  split <;> decide

/-- No number of the parameters is cut off when it is put in its field. -/
theorem record_of_describe (fits : Fits params area) {label : FatLabel} {serial : UInt32}
    {numbers : BootNumbers} (describe : numbers.Describe
      (bootParameters params area (params.totalSectors - area.start) label serial)) :
    numbers.Record params area where
  bytesPerSector := by
    rw [describe.bytesPerSector]
    exact UInt16.toNat_ofNat_of_lt' (Nat.lt_of_le_of_lt fits.valid.sector_le (by decide))
  sectorsPerCluster := by
    rw [describe.sectorsPerCluster]
    exact UInt8.toNat_ofNat_of_lt' (Nat.lt_of_le_of_lt fits.regions.cluster_le (by decide))
  reservedSectors := by
    rw [describe.reservedSectors]
    exact UInt16.toNat_ofNat_of_lt' (Nat.lt_of_le_of_lt fits.regions.reserved_le (by decide))
  fats := describe.fats
  rootEntries := by
    rw [describe.rootEntries]
    exact UInt16.toNat_ofNat_of_lt' (rootEntries_lt params)
  totalSectors := by
    rw [describe.totalSectors]
    exact UInt32.toNat_ofNat_of_lt' fits.partitionSectors_lt
  media := describe.media
  fatSectors := by
    rw [describe.fatSectors]
    exact UInt32.toNat_ofNat_of_lt' fits.fatSectors_lt
  sectorsPerTrack := by
    rw [describe.sectorsPerTrack]
    exact UInt16.toNat_ofNat_of_lt' (Nat.lt_of_le_of_lt fits.track_le (by decide))
  heads := by
    rw [describe.heads]
    exact UInt16.toNat_ofNat_of_lt' (Nat.lt_of_le_of_lt fits.heads_le (by decide))
  hiddenSectors := by
    rw [describe.hiddenSectors]
    exact UInt32.toNat_ofNat_of_lt' fits.start_lt

/-- A volume begins with a boot sector that records its parameters. -/
theorem placements_begin (fits : Fits params area) (label : FatLabel) (serial : UInt32) :
    ∃ record rest, placements params label serial = .ok (.ok record :: rest) ∧
      record.offset = area.start * params.bytesPerSector ∧
      (BootNumbers.read (record.bytes.toList.take params.bytesPerSector)).Record params area := by
  obtain ⟨placements, fields, placed, -, -, -, boot, more, others, begins, length_eq, describe⟩ :=
    placements_eq_ok fits label serial
  refine ⟨_, others.map .ok, by rw [placed, begins]; rfl, rfl, ?_⟩
  rw [Content.toList_ofList, List.take_left' length_eq]
  exact record_of_describe fits describe

/-- The sectors of the partition that hold the boot sector: the first one, and for FAT32 the
seventh with a copy. -/
def bootSectors (filesystem : Filesystem) : List Nat :=
  if filesystem = .fat32 then [0, 6] else [0]

/-- Among the structures of a volume are its boot sectors. They record its parameters. -/
theorem boot_mem_of_volumeFields (fits : Fits params area) {label : FatLabel} {serial : UInt32}
    {fields : List Field} (result : volumeFields params area label serial = .ok fields) :
    ∃ boot, (∀ sector ∈ bootSectors params.filesystem, ⟨sectorPlace params area sector, boot⟩ ∈
        fields) ∧
      boot.length = params.bytesPerSector ∧ (BootNumbers.read boot).Record params area := by
  have size := fits.bytesPerSector_eq label serial
  have fatSectors : (bootParameters params area (params.totalSectors - area.start) label
      serial).sectorsPerFat.toNat = area.fatSectors := UInt32.toNat_ofNat_of_lt' fits.fatSectors_lt
  obtain ⟨record, recordResult, equal⟩ := Checked.bind_eq_ok_iff.1 result
  cases equal
  by_cases fat32 : params.filesystem = .fat32
  · obtain ⟨boot, composed, length_eq, describe⟩ :=
      fat32BootSector_eq_ok (size.symm ▸ fits.valid.sector_ge)
    rw [recordFields, if_pos fat32, composed, Checked.ok_bind] at recordResult
    obtain ⟨info, -, others⟩ := Checked.bind_eq_ok_iff.1 recordResult
    obtain ⟨copyInfo, -, others⟩ := Checked.bind_eq_ok_iff.1 others
    obtain ⟨sentinel, -, equal⟩ := Checked.bind_eq_ok_iff.1 others
    cases equal
    refine ⟨boot, ?_, length_eq.trans size, record_of_describe fits describe⟩
    rw [bootSectors, if_pos fat32]
    intro sector boots
    refine List.mem_append_left _ ?_
    rcases List.mem_pair.1 boots with rfl | rfl
    · exact List.mem_cons_self
    · exact List.mem_cons_of_mem _ (List.mem_cons_of_mem _ (List.mem_cons_of_mem _
        List.mem_cons_self))
  · obtain ⟨boot, composed, length_eq, describe⟩ := fixedRootBootSector_eq_ok
      (typeName params.filesystem) (size.symm ▸ fits.valid.sector_ge)
      (fatSectors.symm ▸ fits.regions.fatSectors_pos)
      (fatSectors.symm ▸ fits.regions.fatSectors_le fat32)
    rw [recordFields, if_neg fat32, composed] at recordResult
    cases recordResult
    refine ⟨boot, ?_, length_eq.trans size, record_of_describe fits describe⟩
    rw [bootSectors, if_neg fat32]
    intro sector boots
    obtain rfl := List.mem_singleton.1 boots
    exact List.mem_cons_self

namespace BootNumbers.Record

variable {numbers : BootNumbers}

theorem rootSectors_eq (record : numbers.Record params area)
    (positive : 0 < params.bytesPerSector) : numbers.rootSectors = params.rootSectorCount := by
  rw [rootSectors, record.rootEntries, record.bytesPerSector, Params.rootSectorCount,
    ← Nat.add_sub_assoc positive]
  rfl

/-- A driver counts the clusters that the parameters have. -/
theorem clusters_eq (record : numbers.Record params area) (positive : 0 < params.bytesPerSector)
    (settled : params.fatTask.Settled params.rootSectorCount area) :
    numbers.clusters = area.clusters := by
  rw [clusters, record.totalSectors, record.reservedSectors, record.fats, record.fatSectors,
    record.rootSectors_eq positive, record.sectorsPerCluster, settled.clusters_eq,
    ← settled.size_eq, Nat.sub_sub]
  rfl

end BootNumbers.Record

/-- The number of clusters tells the filesystem. -/
theorem BootNumbers.filesystem_eq {numbers : BootNumbers}
    (clusters : numbers.clusters = area.clusters) (regions : ValidFat params area) :
    numbers.filesystem = params.filesystem := by
  have least := regions.clusters_ge
  have most := regions.clusters_le
  have isFat := regions.isFat
  rw [filesystem, clusters]
  cases kind : params.filesystem with
  | fat12 =>
    rw [kind] at most
    exact if_pos (Nat.lt_succ_of_le most)
  | fat16 =>
    rw [kind] at least most
    simp only [clusterRange] at least most
    rw [if_neg (by omega), if_pos (by omega)]
  | fat32 =>
    rw [kind] at least
    simp only [clusterRange] at least
    rw [if_neg (by omega), if_neg (by omega)]
  | exFat => exact absurd kind isFat

/-- A driver reads from the boot sector of a volume what its parameters say: every number,
and from these the number of clusters and the filesystem. The FATs have as few sectors as
hold their entries. -/
theorem driver_reads_params {sectors : Nat} {forceFat32 bigClusters : Bool}
    {warnings : List Warning}
    (planned : plan sectors forceFat32 bigClusters = .ok ⟨warnings, .ok params⟩)
    (layout : params.layout = .fat area) (label : FatLabel) (serial : UInt32) :
    ∃ record rest numbers, placements params label serial = .ok (.ok record :: rest) ∧
      record.offset = area.start * params.bytesPerSector ∧
      params.bytesPerSector ≤ record.bytes.size ∧
      numbers = BootNumbers.read (record.bytes.toList.take params.bytesPerSector) ∧
      numbers.Record params area ∧ numbers.clusters = area.clusters ∧
      numbers.filesystem = params.filesystem ∧
      IsLeast {count | (area.clusters + 2) * params.filesystem.entryBits ≤
        count * (params.bytesPerSector * 8)} area.fatSectors := by
  have facts := plannedFor_of_plan planned
  have fits := fits_of_planned facts layout
  have settled := facts.layout
  rw [layout] at settled
  have positive : 0 < params.bytesPerSector := Nat.lt_of_lt_of_le (by decide) fits.valid.sector_ge
  obtain ⟨placements, fields, placed, -, -, -, boot, more, others, begins, length_eq, describe⟩ :=
    placements_eq_ok fits label serial
  have record := record_of_describe fits describe
  have clusters := record.clusters_eq positive settled
  refine ⟨_, others.map .ok, BootNumbers.read boot, by rw [placed, begins]; rfl, rfl, ?_, ?_,
    record, clusters, BootNumbers.filesystem_eq clusters fits.regions, ?_⟩
  · rw [Content.size_ofList, List.length_append, length_eq]
    exact Nat.le_add_right _ _
  · rw [Content.toList_ofList, List.take_left' length_eq]
  · have least := FatTask.isLeast_tableSectors
      (show 0 < params.fatTask.bytesPerSector from positive) (area.clusters + 2)
    rw [← settled.fatSectors_eq] at least
    exact least

/-- The volume of a card of half a mebibyte is read as FAT12 with 60 clusters. -/
theorem driver_reads_halfMebibyte :
    ∃ record rest numbers,
      placements ⟨1024, 512, 16, 16, .fat12, 2, 16, .fat ⟨1, 1, 35, 29, 60⟩⟩ ⟨"", [], by decide⟩ 7 =
        .ok (.ok record :: rest) ∧
      record.offset = 29 * 512 ∧ 512 ≤ record.bytes.size ∧
      numbers = BootNumbers.read (record.bytes.toList.take 512) ∧
      numbers.Record ⟨1024, 512, 16, 16, .fat12, 2, 16, .fat ⟨1, 1, 35, 29, 60⟩⟩
        ⟨1, 1, 35, 29, 60⟩ ∧
      numbers.clusters = 60 ∧ numbers.filesystem = .fat12 ∧
      IsLeast {count | (60 + 2) * 12 ≤ count * (512 * 8)} 1 :=
  driver_reads_params plan_halfMebibyte rfl ⟨"", [], by decide⟩ 7

end CardFormat.Fat
