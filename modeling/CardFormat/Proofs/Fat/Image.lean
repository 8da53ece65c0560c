/-
This file puts a FAT card together. Whatever a device in memory held before, after the
partition table and the volume were written it holds exactly these, with zeros between
their structures, up to the end of the volume; behind it nothing has changed. Both FATs
are the same: every cluster is free, but for the root directory of FAT32.
-/

import CardFormat.Proofs.Fat.Table
import CardFormat.Proofs.Format.Card

namespace CardFormat.Fat

variable {params : Params} {area : FatArea}

theorem volumeEnd_eq (params : Params) (area : FatArea) :
    volumeEnd params area = (area.start + area.size +
      if params.filesystem = .fat32 then params.sectorsPerCluster else 0) *
        params.bytesPerSector := by
  rw [volumeEnd, sectorPlace, filledSectors]
  split
  · rw [Nat.add_assoc]
  · rw [Nat.add_zero]

/-- What ends in front of the end of the volume in sectors does so in bytes. -/
theorem table_inside {sector : Nat} (le : sector + area.fatSectors ≤ filledSectors params area) :
    sectorPlace params area sector + area.fatSectors * params.bytesPerSector ≤
      volumeEnd params area := by
  rw [← sectorPlace_add]
  exact Nat.mul_le_mul_right _ (Nat.add_le_add_left le _)

namespace Fits

theorem sectorBytes_le_sectorPlace (fits : Fits params area) :
    sectorBytes ≤ sectorPlace params area 0 := by
  have start := Nat.pos_of_ne_zero fits.regions.start_ne
  exact Nat.le_trans fits.valid.sector_ge (Nat.le_mul_of_pos_left _ start)

theorem volumeEnd_whole (fits : Fits params area) : volumeEnd params area % sectorBytes = 0 :=
  Nat.mod_eq_zero_of_dvd (Nat.dvd_mul_left_of_dvd fits.sectorBytes_dvd _)

theorem volumeEnd_le (fits : Fits params area) :
    volumeEnd params area ≤ params.totalSectors * params.bytesPerSector :=
  Nat.mul_le_mul_right _ fits.filledSectors_le

/-- In a rising volume either FAT is its first entries and zeros. -/
theorem fats_read (fits : Fits params area) {label : FatLabel} {image : List UInt8}
    {position : Nat} (before : List Field)
    (consists : Sector.ConsistsOf image (volumeEnd params area)
      (before ++ tableFields params area label))
    (rising : Stream.Rising position (before ++ tableFields params area label)) :
    Sector.read image (sectorPlace params area area.reserved)
        (area.fatSectors * params.bytesPerSector) = newTable params area ∧
      Sector.read image (sectorPlace params area (area.reserved + area.fatSectors))
        (area.fatSectors * params.bytesPerSector) = newTable params area := by
  have filled := fits.fats_lt_filledSectors
  have room : (reservedEntries params.filesystem).length ≤
      area.fatSectors * params.bytesPerSector := by
    have entries := length_reservedEntries_le params.filesystem
    have sector := fits.valid.sector_ge
    have table := Nat.le_mul_of_pos_left params.bytesPerSector fits.regions.fatSectors_pos
    omega
  rw [tableFields] at consists rising
  obtain ⟨-, -, second, others⟩ := Stream.rising_append_iff.1 rising
  have firstWindow := Stream.read_begun consists rising
    ⟨Nat.le_of_eq (sectorPlace_add _ _).symm, others⟩ room (table_inside (by omega))
  -- The second FAT is read behind the first.
  rw [List.append_cons] at consists rising
  have behind : Stream.Rising (sectorPlace params area (area.reserved + area.fatSectors) +
      area.fatSectors * params.bytesPerSector) (labelFields params area label) := by
    rw [← sectorPlace_add, Nat.add_assoc, ← Nat.two_mul, labelFields]
    cases label.entryName with
    | none => trivial
    | some name => exact ⟨Nat.le_refl _, trivial⟩
  exact ⟨firstWindow, Stream.read_begun consists rising behind room (table_inside (by omega))⟩

end Fits

section

variable {sectors : Nat} {forceFat32 bigClusters : Bool} {warnings : List Warning}
  {device : MemoryDevice}
  (planned : plan sectors forceFat32 bigClusters = .ok ⟨warnings, .ok params⟩)
  (layout : params.layout = .fat area) (size : device.sectors = sectors)
  (opened : device.closed = false) (unlimited : device.writeLimit = none)

include planned layout size opened unlimited

/-- Writing a FAT card succeeds on every device in memory of its size that takes writes. The
device then begins with the partition table and the structures of the volume, which come in
rising order, and behind the volume nothing has changed. -/
theorem writeCard_rising (label : FatLabel) (signature serial : UInt32) (notes : List Warning) :
    ∃ final table volume image,
      throughWriter (writeCard ⟨params, .fat label, notes⟩ ⟨.ok signature, serial⟩) device =
        .ok (signature, volumeEnd params area) final ∧
      volumeEnd params area ≤ sectors * sectorBytes ∧
      PartitionTable.ofParams params signature false = .ok table ∧
      volumeFields params area label serial = .ok volume ∧
      Sector.ConsistsOf image (volumeEnd params area) (⟨0, table.encode⟩ :: volume) ∧
      Stream.Rising 0 (⟨0, table.encode⟩ :: volume) ∧
      final.data.toList = image ++ device.data.toList.drop (volumeEnd params area) ∧
      final.sectors = sectors := by
  have facts := plannedFor_of_plan planned
  have fits := fits_of_planned facts layout
  obtain ⟨placements, volume, placed, structures, joins, rising, -⟩ :=
    placements_eq_ok fits label serial
  have behind := Stream.rising_of_le fits.sectorBytes_le_sectorPlace rising
  obtain ⟨final, table, image, result, inside, tableResult, consists, data, same⟩ :=
    writeCard_planned facts size opened unlimited (.fat label) signature serial notes
      fits.volumeEnd_le placed joins behind fits.volumeEnd_whole
  exact ⟨final, table, volume, image, result, inside, tableResult, structures, consists,
    (rising_cardFields table).2 (Stream.rising_append_iff.1 behind).1, data, same⟩

/-- On a card that was written, both FATs have the first entries of their filesystem, and every
other cluster is free. -/
theorem writeCard_fatEntry (label : FatLabel) (signature serial : UInt32) (notes : List Warning) :
    ∃ final finish,
      throughWriter (writeCard ⟨params, .fat label, notes⟩ ⟨.ok signature, serial⟩) device =
        .ok (signature, finish) final ∧
      ∀ place ∈ [area.reserved, area.reserved + area.fatSectors], ∀ cluster,
        fatEntry params.filesystem (Sector.read final.data.toList (sectorPlace params area place)
          (area.fatSectors * params.bytesPerSector)) cluster =
            newEntry params.filesystem cluster := by
  have fits := fits_of_planned (plannedFor_of_plan planned) layout
  have filled := fits.fats_lt_filledSectors
  obtain ⟨final, table, volume, image, result, -, -, structures, consists, rising, data, -⟩ :=
    writeCard_rising planned layout size opened unlimited label signature serial notes
  refine ⟨final, volumeEnd params area, result, fun place member cluster => ?_⟩
  obtain ⟨record, rfl⟩ := eq_append_of_volumeFields structures
  obtain ⟨first, second⟩ := fits.fats_read (⟨0, table.encode⟩ :: record) consists rising
  have read : place + area.fatSectors ≤ filledSectors params area ∧
      Sector.read image (sectorPlace params area place)
        (area.fatSectors * params.bytesPerSector) = newTable params area := by
    simp only [List.mem_cons, List.not_mem_nil, or_false] at member
    rcases member with rfl | rfl
    · exact ⟨by omega, first⟩
    · exact ⟨by omega, second⟩
  have inside : sectorPlace params area place + area.fatSectors * params.bytesPerSector ≤
      image.length := by
    rw [consists.length_eq]
    exact table_inside read.1
  rw [data, Sector.read_append_left inside, read.2, fatEntry_newTable fits.isFat_eq_true]

end

/-- Writing a FAT card succeeds on every device in memory of its size that takes writes. The
device then begins with the partition table and the structures of the volume, each in its
place, with zeros between them up to the end of the volume. Both FATs are the same, and
behind the volume nothing has changed. -/
theorem writeCard_fat {sectors : Nat} {forceFat32 bigClusters : Bool} {warnings : List Warning}
    (planned : plan sectors forceFat32 bigClusters = .ok ⟨warnings, .ok params⟩)
    (layout : params.layout = .fat area) {device : MemoryDevice}
    (size : device.sectors = sectors) (opened : device.closed = false)
    (unlimited : device.writeLimit = none) (label : FatLabel) (signature serial : UInt32)
    (notes : List Warning) :
    ∃ final table volume image finish,
      throughWriter (writeCard ⟨params, .fat label, notes⟩ ⟨.ok signature, serial⟩) device =
        .ok (signature, finish) final ∧
      finish = (area.start + area.size +
        if params.filesystem = .fat32 then params.sectorsPerCluster else 0) *
          params.bytesPerSector ∧
      finish ≤ sectors * sectorBytes ∧
      PartitionTable.ofParams params signature false = .ok table ∧
      volumeFields params area label serial = .ok volume ∧
      (labelFields params area label = [] ↔ label.isEmpty = true) ∧
      Sector.ConsistsOf image finish (⟨0, table.encode⟩ :: volume) ∧
      Sector.read image ((area.start + area.reserved) * params.bytesPerSector)
          (area.fatSectors * params.bytesPerSector) =
        Sector.read image ((area.start + (area.reserved + area.fatSectors)) * params.bytesPerSector)
          (area.fatSectors * params.bytesPerSector) ∧
      final.data.toList = image ++ device.data.toList.drop finish ∧
      final.sectors = sectors := by
  have facts := plannedFor_of_plan planned
  have fits := fits_of_planned facts layout
  obtain ⟨final, table, volume, image, result, inside, tableResult, structures, consists, rising,
    data, same⟩ := writeCard_rising planned layout size opened unlimited label signature serial
      notes
  refine ⟨final, table, volume, image, volumeEnd params area, result, volumeEnd_eq params area,
    inside, tableResult, structures, labelFields_eq_nil_iff, consists, ?_, data, same⟩
  obtain ⟨record, rfl⟩ := eq_append_of_volumeFields structures
  obtain ⟨first, second⟩ := fits.fats_read (⟨0, table.encode⟩ :: record) consists rising
  exact first.trans second.symm

/-- An image of half a mebibyte is written up to the data behind its root directory. -/
theorem writeCard_halfMebibyte :
    ∃ final, throughWriter (writeCard
      ⟨⟨1024, 512, 16, 16, .fat12, 2, 16, .fat ⟨1, 1, 35, 29, 60⟩⟩, .fat ⟨"", [], by decide⟩, []⟩
      ⟨.ok 5, 7⟩) (MemoryDevice.image 1024) = .ok (5, 64 * 512) final := by
  obtain ⟨final, -, -, -, finish, result, ends, -⟩ := writeCard_fat plan_halfMebibyte rfl
    (show (MemoryDevice.image 1024).sectors = 1024 from rfl) rfl rfl ⟨"", [], by decide⟩ 5 7 []
  rw [ends] at result
  exact ⟨final, result⟩

end CardFormat.Fat
