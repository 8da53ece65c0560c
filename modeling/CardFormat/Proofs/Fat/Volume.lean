/-
This file says what a FAT volume consists of, structure by structure, each at its sector of
the partition, and proves that this is what is placed. The three sectors of a FAT32 boot
record are placed at once. The structures come in rising order and none reaches into the
next: the boot record lies in the reserved area, the entries fit the FATs, and behind the
FATs there is a root directory for the label.
-/

import CardFormat.Fat.Volume
import CardFormat.Proofs.Bytes.Stream
import CardFormat.Proofs.Fat.BootSector
import CardFormat.Proofs.Params.Usable
import CardFormat.Proofs.Writer

namespace CardFormat.Fat

variable {params : Params} {area : FatArea}

/-- The parameters are those of a FAT volume that can be written. -/
structure Fits (params : Params) (area : FatArea) : Prop extends Params.Usable params where
  layout : params.layout = .fat area
  reserved_pos : 0 < area.reserved
  start_lt : area.start < 2 ^ 32

theorem fits_of_planned {sectors : Nat} (planned : params.PlannedFor sectors)
    (layout : params.layout = .fat area) : Fits params area where
  toUsable := planned.usable
  layout := layout
  reserved_pos := by
    have solved := planned.layout
    rw [layout] at solved
    exact solved.reserved_pos
  start_lt := by
    have before := planned.usable.partitionStart_lt
    have total := planned.totalSectors_le
    have high := planned.high
    rw [Params.partitionStart, layout] at before
    exact Nat.lt_of_lt_of_le before (Nat.le_trans total high)

namespace Fits

theorem isFat_eq_true (fits : Fits params area) : params.filesystem.isFat = true := by
  have regions := fits.valid.layout
  rw [fits.layout] at regions
  have kind := regions.isFat
  cases filesystem : params.filesystem with
  | exFat => exact absurd filesystem kind
  | _ => rfl

theorem regions (fits : Fits params area) : ValidFat params area := by
  have regions := fits.valid.layout
  rw [fits.layout] at regions
  exact regions

theorem start_lt_total (fits : Fits params area) : area.start < params.totalSectors := by
  have before := fits.partitionStart_lt
  rw [Params.partitionStart, fits.layout] at before
  exact before

/-- The sectors of the partition. -/
theorem partitionSectors_eq (fits : Fits params area) :
    params.partitionSectors = .ok (params.totalSectors - area.start) := by
  have before := fits.start_lt_total
  rw [Params.partitionSectors, Params.partitionStart, fits.layout]
  exact Checked.subtract_of_le (Nat.le_of_lt before)

theorem partitionSectors_lt (fits : Fits params area) :
    params.totalSectors - area.start < 2 ^ 32 := by
  have long := fits.regions.partition_le
  rw [Params.partitionStart, fits.layout] at long
  simp only at long
  omega

theorem fatSectors_lt (fits : Fits params area) : area.fatSectors < 2 ^ 32 := by
  have size := fits.regions.size_eq
  have finish := fits.regions.end_le
  have long := fits.partitionSectors_lt
  have start := fits.start_lt_total
  omega

end Fits

/-! ### The structures of a volume -/

/-- The byte offset of a sector of the partition. -/
def sectorPlace (params : Params) (area : FatArea) (sector : Nat) : Nat :=
  (area.start + sector) * params.bytesPerSector

/-- The sectors of the boot record: the boot sector alone, or for FAT32 three sectors, and
again from sector 6 without the free cluster count. -/
def recordFields (params : Params) (area : FatArea) (parameters : BootParameters) :
    Checked (List Field) :=
  if params.filesystem = .fat32 then do
    let boot ← fat32BootSector parameters
    let info ← infoSector parameters.bytesPerSector (UInt32.ofNat (area.clusters - 1)) 3
    let copyInfo ← infoSector parameters.bytesPerSector unknownCount 3
    let sentinel ← sentinelSector parameters.bytesPerSector
    return [⟨sectorPlace params area 0, boot⟩, ⟨sectorPlace params area 1, info⟩,
      ⟨sectorPlace params area 2, sentinel⟩, ⟨sectorPlace params area 6, boot⟩,
      ⟨sectorPlace params area 7, copyInfo⟩, ⟨sectorPlace params area 8, sentinel⟩]
  else do
    let boot ← fixedRootBootSector parameters (typeName params.filesystem)
    return [⟨sectorPlace params area 0, boot⟩]

/-- The label in the root directory, if there is one. -/
def labelFields (params : Params) (area : FatArea) (label : FatLabel) : List Field :=
  match label.entryName with
  | none => []
  | some name =>
    [⟨sectorPlace params area (area.reserved + 2 * area.fatSectors), labelEntry name⟩]

theorem labelFields_eq_nil_iff {label : FatLabel} :
    labelFields params area label = [] ↔ label.isEmpty = true := by
  rw [labelFields, FatLabel.entryName]
  cases label.isEmpty with
  | true => simp only [if_true]
  | false => simp only [Bool.false_eq_true, if_false, List.cons_ne_self]

/-- What stands behind the boot record: the first entries of both FATs, and the label. -/
def tableFields (params : Params) (area : FatArea) (label : FatLabel) : List Field :=
  ⟨sectorPlace params area area.reserved, reservedEntries params.filesystem⟩ ::
    ⟨sectorPlace params area (area.reserved + area.fatSectors),
      reservedEntries params.filesystem⟩ :: labelFields params area label

/-- All that a volume consists of. -/
def volumeFields (params : Params) (area : FatArea) (label : FatLabel) (serial : UInt32) :
    Checked (List Field) := do
  let record ← recordFields params area
    (bootParameters params area (params.totalSectors - area.start) label serial)
  return record ++ tableFields params area label

theorem eq_append_of_volumeFields {label : FatLabel} {serial : UInt32} {fields : List Field}
    (result : volumeFields params area label serial = .ok fields) :
    ∃ record, fields = record ++ tableFields params area label := by
  obtain ⟨record, -, equal⟩ := Checked.bind_eq_ok_iff.1 result
  cases equal
  exact ⟨record, rfl⟩

namespace Fits

theorem filledSectors_le (fits : Fits params area) :
    area.start + filledSectors params area ≤ params.totalSectors := by
  have finish := fits.regions.end_le
  unfold filledSectors
  split
  · rename_i fat32
    have clusters := fits.regions.clusters_ge
    rw [fat32] at clusters
    have some := Nat.le_mul_of_pos_left params.sectorsPerCluster
      (show 0 < area.clusters from Nat.lt_of_lt_of_le (by decide) clusters)
    omega
  · omega

/-- Behind the FATs there is a root directory. -/
theorem fats_lt_filledSectors (fits : Fits params area) :
    area.reserved + 2 * area.fatSectors < filledSectors params area := by
  have size := fits.regions.size_eq
  have isFat := fits.regions.isFat
  unfold filledSectors
  split
  · have cluster := pos_of_power fits.valid.cluster_power
    omega
  · rename_i other
    have root : 0 < params.rootSectorCount := by
      have least := fits.valid.sector_ge
      have entries : params.rootEntries = fixedRootEntries := by
        unfold Params.rootEntries
        cases kind : params.filesystem with
        | fat12 => rfl
        | fat16 => rfl
        | fat32 => exact absurd kind other
        | exFat => exact absurd kind isFat
      refine Nat.div_pos ?_ (by omega)
      rw [entries, fixedRootEntries, directoryEntryBytes]
      omega
    omega

theorem sectorOffset_eq (fits : Fits params area) {sector : Nat}
    (inside : sector ≤ filledSectors params area) :
    sectorOffset params area sector = .ok (sectorPlace params area sector) := by
  have filled := fits.filledSectors_le
  refine Checked.word64_of_lt (Nat.lt_of_le_of_lt ?_ fits.bytes_fit)
  exact Nat.mul_le_mul_right _ (by omega)

theorem atSector_eq (fits : Fits params area) {sector : Nat}
    (inside : sector ≤ filledSectors params area) (bytes : List UInt8) :
    atSector params area sector bytes = .ok ⟨sectorPlace params area sector, .ofList bytes⟩ := by
  rw [atSector, fits.sectorOffset_eq inside]
  rfl

theorem bytesPerSector_eq (fits : Fits params area) (label : FatLabel) (serial : UInt32) :
    (bootParameters params area (params.totalSectors - area.start) label
      serial).bytesPerSector.toNat = params.bytesPerSector :=
  UInt16.toNat_ofNat_of_lt' (Nat.lt_of_le_of_lt fits.valid.sector_le (by decide))

end Fits

/-- What fits a sector ends before any later sector. -/
theorem sectorPlace_add_le {earlier later length : Nat} (before : earlier < later)
    (short : length ≤ params.bytesPerSector) :
    sectorPlace params area earlier + length ≤ sectorPlace params area later := by
  have step := Nat.mul_le_mul_right params.bytesPerSector
    (show area.start + earlier + 1 ≤ area.start + later by omega)
  rw [Nat.succ_mul] at step
  unfold sectorPlace
  omega

theorem sectorPlace_add (sector more : Nat) :
    sectorPlace params area (sector + more) =
      sectorPlace params area sector + more * params.bytesPerSector := by
  rw [sectorPlace, sectorPlace, ← Nat.add_assoc, Nat.add_mul]

/-! ### The boot record -/

/-- The boot record is placed as sectors that are joined where they touch. It lies in the
reserved area, and begins with a boot sector that describes the parameters. -/
structure PlacedRecord (params : Params) (area : FatArea) (parameters : BootParameters)
    (placements : List Placement) (record : List Field) : Prop where
  placed : bootRecord params area parameters = .ok (placements.map .ok)
  recorded : recordFields params area parameters = .ok record
  joins : ∀ rest, Stream.Joins (placements.map Placement.field ++ rest) (record ++ rest)
  rising : ∀ rest, Stream.Rising (sectorPlace params area area.reserved) rest →
    Stream.Rising (sectorPlace params area 0) (record ++ rest)
  boot : ∃ boot more others,
    placements = ⟨sectorPlace params area 0, .ofList (boot ++ more)⟩ :: others ∧
      boot.length = params.bytesPerSector ∧ (BootNumbers.read boot).Describe parameters

theorem placedRecord_fixedRoot (fits : Fits params area) (other : params.filesystem ≠ .fat32)
    (label : FatLabel) (serial : UInt32) :
    ∃ placements record, PlacedRecord params area
      (bootParameters params area (params.totalSectors - area.start) label serial)
      placements record := by
  have size := fits.bytesPerSector_eq label serial
  have fatSectors : (bootParameters params area (params.totalSectors - area.start) label
      serial).sectorsPerFat.toNat = area.fatSectors := UInt32.toNat_ofNat_of_lt' fits.fatSectors_lt
  obtain ⟨boot, result, length_eq, describe⟩ := fixedRootBootSector_eq_ok
    (typeName params.filesystem) (size.symm ▸ fits.valid.sector_ge)
    (fatSectors.symm ▸ fits.regions.fatSectors_pos)
    (fatSectors.symm ▸ fits.regions.fatSectors_le other)
  rw [size] at length_eq
  refine ⟨[⟨sectorPlace params area 0, .ofList boot⟩], [⟨sectorPlace params area 0, boot⟩], ?_, ?_,
    ?_, ?_, ?_⟩
  · rw [bootRecord, if_neg other, result, Checked.ok_bind, fits.atSector_eq (Nat.zero_le _)]
    rfl
  · rw [recordFields, if_neg other, result, Checked.ok_bind]
    rfl
  · intro rest
    simp only [List.map_cons, List.map_nil, Placement.field, Content.toList_ofList]
    exact Stream.Joins.refl _
  · intro rest rising
    refine ⟨Nat.le_refl _, Stream.rising_of_le ?_ rising⟩
    exact sectorPlace_add_le fits.reserved_pos (Nat.le_of_eq length_eq)
  · refine ⟨boot, [], [], ?_, length_eq, describe⟩
    rw [List.append_nil]

/-- Three sectors that are placed at once are three fields in a row. -/
theorem joins_threeSectors (sector : Nat) {first second third : List UInt8}
    (firstLength : first.length = params.bytesPerSector)
    (secondLength : second.length = params.bytesPerSector) {joined fields : List Field}
    (joins : Stream.Joins joined fields) :
    Stream.Joins (⟨sectorPlace params area sector, first ++ second ++ third⟩ :: joined)
      (⟨sectorPlace params area sector, first⟩ :: ⟨sectorPlace params area (sector + 1), second⟩ ::
        ⟨sectorPlace params area (sector + 2), third⟩ :: fields) := by
  have touch : sectorPlace params area (sector + 1) =
      sectorPlace params area sector + first.length := by
    rw [sectorPlace_add, Nat.one_mul, firstLength]
  have touchTwo : sectorPlace params area (sector + 2) =
      sectorPlace params area sector + (first ++ second).length := by
    rw [sectorPlace_add, Nat.two_mul, List.length_append, firstLength, secondLength]
  exact ((((joins.cons _).cons _).cons _).join touch).join touchTwo

theorem placedRecord_fat32 (fits : Fits params area) (fat32 : params.filesystem = .fat32)
    (label : FatLabel) (serial : UInt32) :
    ∃ placements record, PlacedRecord params area
      (bootParameters params area (params.totalSectors - area.start) label serial)
      placements record := by
  have size := fits.bytesPerSector_eq label serial
  generalize bootParameters params area (params.totalSectors - area.start) label serial =
    parameters at size ⊢
  have large : 512 ≤ parameters.bytesPerSector.toNat := size.symm ▸ fits.valid.sector_ge
  obtain ⟨boot, bootResult, bootLength, describe⟩ := fat32BootSector_eq_ok large
  obtain ⟨info, infoResult, infoLength⟩ :=
    infoSector_eq_ok large (UInt32.ofNat (area.clusters - 1)) 3
  obtain ⟨copyInfo, copyResult, copyLength⟩ := infoSector_eq_ok large unknownCount 3
  obtain ⟨sentinel, sentinelResult, sentinelLength⟩ := sentinelSector_eq_ok large
  rw [size] at bootLength infoLength copyLength sentinelLength
  have reserved := fits.regions.reserved_ge fat32
  have filled := fits.fats_lt_filledSectors
  have some : 1 ≤ area.clusters := by
    have clusters := fits.regions.clusters_ge
    rw [fat32] at clusters
    exact Nat.le_trans (by decide) clusters
  refine ⟨[⟨sectorPlace params area 0, .ofList (boot ++ info ++ sentinel)⟩,
      ⟨sectorPlace params area 6, .ofList (boot ++ copyInfo ++ sentinel)⟩],
    [⟨sectorPlace params area 0, boot⟩, ⟨sectorPlace params area 1, info⟩,
      ⟨sectorPlace params area 2, sentinel⟩, ⟨sectorPlace params area 6, boot⟩,
      ⟨sectorPlace params area 7, copyInfo⟩, ⟨sectorPlace params area 8, sentinel⟩],
    ?_, ?_, ?_, ?_, ?_⟩
  · unfold fat32LeastReserved at reserved
    rw [bootRecord, if_pos fat32, bootResult, Checked.ok_bind, sentinelResult, Checked.ok_bind,
      Checked.subtract_of_le some, Checked.ok_bind, infoResult, Checked.ok_bind, copyResult,
      Checked.ok_bind, fits.atSector_eq (Nat.zero_le _), fits.atSector_eq (by omega)]
    rfl
  · rw [recordFields, if_pos fat32, bootResult, Checked.ok_bind, infoResult, Checked.ok_bind,
      copyResult, Checked.ok_bind, sentinelResult, Checked.ok_bind]
    rfl
  · intro rest
    simp only [List.map_cons, List.map_nil, Placement.field, Content.toList_ofList]
    exact joins_threeSectors 0 bootLength infoLength
      (joins_threeSectors 6 bootLength copyLength (Stream.Joins.refl rest))
  · intro rest rising
    have sectors : ∀ {sector : List UInt8}, sector.length = params.bytesPerSector →
        ∀ {earlier later : Nat}, earlier < later →
        sectorPlace params area earlier + sector.length ≤ sectorPlace params area later :=
      fun length_eq _ _ before => sectorPlace_add_le before (Nat.le_of_eq length_eq)
    exact ⟨Nat.le_refl _, sectors bootLength (by decide), sectors infoLength (by decide),
      sectors sentinelLength (by decide), sectors bootLength (by decide),
      sectors copyLength (by decide), Stream.rising_of_le (sectors sentinelLength reserved) rising⟩
  · refine ⟨boot, info ++ sentinel,
      [⟨sectorPlace params area 6, .ofList (boot ++ copyInfo ++ sentinel)⟩], ?_, bootLength,
      describe⟩
    rw [List.append_assoc boot info sentinel]

theorem placedRecord (fits : Fits params area) (label : FatLabel) (serial : UInt32) :
    ∃ placements record, PlacedRecord params area
      (bootParameters params area (params.totalSectors - area.start) label serial)
      placements record := by
  by_cases fat32 : params.filesystem = .fat32
  · exact placedRecord_fat32 fits fat32 label serial
  · exact placedRecord_fixedRoot fits fat32 label serial

/-! ### The whole volume -/

/-- Where a volume ends on the device. -/
def volumeEnd (params : Params) (area : FatArea) : Nat :=
  sectorPlace params area (filledSectors params area)

theorem length_reservedEntries_le (filesystem : Filesystem) :
    (reservedEntries filesystem).length ≤ 12 := by
  cases filesystem <;> decide

theorem length_labelEntry (name : Vector UInt8 labelLimit) : (labelEntry name).length = 32 := by
  rw [labelEntry, List.length_append, List.length_cons, List.length_replicate, Vector.length_toList]
  rfl

/-- What stands behind the boot record is placed as it is, up to the end of the volume. -/
theorem tables_eq (fits : Fits params area) (label : FatLabel) :
    ∃ placements : List Placement,
      fatHeads params area ++ rootLabel params area label ++ [finish params area] =
        placements.map .ok ∧
      placements.map Placement.field =
        tableFields params area label ++ [⟨volumeEnd params area, []⟩] := by
  have filled := fits.fats_lt_filledSectors
  have ends : finish params area = .ok ⟨volumeEnd params area, .empty⟩ := by
    rw [finish, fits.sectorOffset_eq (Nat.le_refl _)]
    rfl
  have first := fits.atSector_eq (show area.reserved ≤ _ by omega)
    (reservedEntries params.filesystem)
  have second := fits.atSector_eq (show area.reserved + area.fatSectors ≤ _ by omega)
    (reservedEntries params.filesystem)
  rw [fatHeads, rootLabel, tableFields, labelFields, ends, first, second]
  cases label.entryName with
  | none =>
    refine ⟨[⟨_, .ofList (reservedEntries params.filesystem)⟩,
      ⟨_, .ofList (reservedEntries params.filesystem)⟩, ⟨_, .empty⟩], rfl, ?_⟩
    simp only [List.map_cons, List.map_nil, Placement.field, Content.toList_ofList,
      Content.toList_empty]
    rfl
  | some name =>
    simp only
    rw [fits.atSector_eq (Nat.le_of_lt filled)]
    refine ⟨[⟨_, .ofList (reservedEntries params.filesystem)⟩,
      ⟨_, .ofList (reservedEntries params.filesystem)⟩, ⟨_, .ofList (labelEntry name)⟩,
      ⟨_, .empty⟩], rfl, ?_⟩
    simp only [List.map_cons, List.map_nil, Placement.field, Content.toList_ofList,
      Content.toList_empty]
    rfl

/-- The entries of the FATs and the label follow one another. -/
theorem rising_tables (fits : Fits params area) (label : FatLabel) :
    Stream.Rising (sectorPlace params area area.reserved)
      (tableFields params area label ++ [⟨volumeEnd params area, []⟩]) := by
  have filled := fits.fats_lt_filledSectors
  have large := fits.valid.sector_ge
  have fats := fits.regions.fatSectors_pos
  have entries := length_reservedEntries_le params.filesystem
  have short : (reservedEntries params.filesystem).length ≤ params.bytesPerSector := by omega
  rw [tableFields, labelFields]
  refine ⟨Nat.le_refl _, sectorPlace_add_le (by omega) short, ?_⟩
  cases label.entryName with
  | none => exact ⟨sectorPlace_add_le (by omega) short, trivial⟩
  | some name =>
    have entry : (labelEntry name).length ≤ params.bytesPerSector := by
      rw [length_labelEntry]
      omega
    exact ⟨sectorPlace_add_le (by omega) short, sectorPlace_add_le filled entry, trivial⟩

/-- The volume is placed as its structures, in rising order, up to its end. -/
theorem placements_eq_ok (fits : Fits params area) (label : FatLabel) (serial : UInt32) :
    ∃ placements fields, Fat.placements params label serial = .ok (placements.map .ok) ∧
      volumeFields params area label serial = .ok fields ∧
      Stream.Joins (placements.map Placement.field) (fields ++ [⟨volumeEnd params area, []⟩]) ∧
      Stream.Rising (sectorPlace params area 0) (fields ++ [⟨volumeEnd params area, []⟩]) ∧
      ∃ boot more others,
        placements = ⟨sectorPlace params area 0, .ofList (boot ++ more)⟩ :: others ∧
        boot.length = params.bytesPerSector ∧ (BootNumbers.read boot).Describe
          (bootParameters params area (params.totalSectors - area.start) label serial) := by
  obtain ⟨first, record, placed, recorded, joins, rising, boot, more, others, begins, length_eq,
    describe⟩ := placedRecord fits label serial
  obtain ⟨second, tables, same⟩ := tables_eq fits label
  refine ⟨first ++ second, record ++ tableFields params area label, ?_, ?_, ?_, ?_, boot, more,
    others ++ second, ?_, length_eq, describe⟩
  · rw [Fat.placements, fits.layout]
    simp only [fits.isFat_eq_true, if_true]
    rw [fits.partitionSectors_eq, Attempt.lift_ok, Checked.ok_bind, placed, Attempt.lift_ok,
      Checked.ok_bind, List.append_assoc, List.append_assoc, ← List.append_assoc (fatHeads _ _),
      tables, ← List.map_append]
    rfl
  · rw [volumeFields, recorded]
    rfl
  · rw [List.map_append, same, List.append_assoc]
    exact joins _
  · rw [List.append_assoc]
    exact rising _ (rising_tables fits label)
  · rw [begins]
    rfl

end CardFormat.Fat
