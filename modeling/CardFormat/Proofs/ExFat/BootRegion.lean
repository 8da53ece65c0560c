/-
This file proves that the boot region of an exFAT volume can always be made, for sectors
that are long enough and hold whole words, and that it takes up twelve sectors. The first
of them is the boot sector, in which the layout is recorded; the size of an erase block is
recorded in the tenth.
-/

import CardFormat.Proofs.ExFat.BootSector

namespace CardFormat.ExFat

/-- The places of the fields of the medium sector. -/
def mediumPlaces : List (Nat × Nat) := [(0, 16), (16, 4)]

/-- The mark of an extended sector is in its last four bytes. -/
theorem extendedSector_eq_ok {bytesPerSector : Nat} (large : 4 ≤ bytesPerSector) :
    ∃ sector, extendedSector bytesPerSector = .ok sector ∧ sector.length = bytesPerSector := by
  rw [extendedSector, Checked.subtract_of_le large, Checked.ok_bind]
  refine Exists.imp (fun sector composed => ⟨composed.1, composed.2.length_eq⟩)
    (Sector.compose_eq_ok [(bytesPerSector - 4, 4)] rfl ?_ (List.pairwise_singleton _ _))
  intro place member
  rw [List.mem_singleton.1 member]
  exact Nat.le_of_eq (Nat.sub_add_cancel large)

/-- The medium sector says what the size of an erase block is, as far as its field holds it. -/
theorem mediumSector_eq_ok {bytesPerSector : Nat} (large : 512 ≤ bytesPerSector)
    (eraseBlockBytes : Nat) :
    ∃ sector, mediumSector bytesPerSector eraseBlockBytes = .ok sector ∧
      sector.length = bytesPerSector ∧
      Sector.readNumber sector 16 4 = eraseBlockBytes % 256 ^ 4 := by
  rw [mediumSector]
  refine Exists.imp (fun sector composed => ⟨composed.1, composed.2.length_eq, ?number⟩)
    (Sector.compose_eq_ok mediumPlaces ?placed (Sector.inside_sector large ?inside) ?apart)
  case number =>
    have fields := composed.2.read_field
    simp only [List.forall_mem_cons] at fields
    exact readNumber_of_encode fields.2.1
  case placed =>
    simp only [List.map_cons, List.map_nil, Field.place, LittleEndian.length_encode]
    rfl
  case inside => decide
  case apart => decide

theorem checkedRegion_eq_ok {layout : Layout} (large : 512 ≤ layout.bytesPerSector)
    (serial : UInt32) :
    ∃ region, checkedRegion layout serial = .ok region ∧
      region.length = layout.bytesPerSector * checkedSectors := by
  obtain ⟨boot, bootResult, bootLength, -⟩ := bootSector_eq_ok large serial
  obtain ⟨extended, extendedResult, extendedLength⟩ :=
    extendedSector_eq_ok (Nat.le_trans (by decide) large)
  obtain ⟨medium, mediumResult, mediumLength, -⟩ :=
    mediumSector_eq_ok large layout.eraseBlockBytes
  rw [checkedRegion, bootResult, Checked.ok_bind, extendedResult, Checked.ok_bind, mediumResult,
    Checked.ok_bind]
  refine ⟨_, rfl, ?_⟩
  simp only [List.length_append, List.length_flatten, List.map_replicate, List.sum_replicate_nat,
    List.length_replicate, bootLength, extendedLength, mediumLength, checkedSectors]
  omega

/-- The boot region is eleven sectors, and their checksum as often as it fits into one more. -/
theorem bootRegion_summed {layout : Layout} (large : 512 ≤ layout.bytesPerSector)
    (serial : UInt32) :
    ∃ checked sum, checked.length = layout.bytesPerSector * checkedSectors ∧
      bootChecksum checked layout.bytesPerSector = .ok sum ∧
      bootRegion layout serial = .ok (checked ++
        (List.replicate (layout.bytesPerSector / 4) (LittleEndian.word32 sum)).flatten) := by
  obtain ⟨checked, result, length_eq⟩ := checkedRegion_eq_ok large serial
  have summed : bootChecksum checked layout.bytesPerSector =
      .ok (sumFrom 0 0 (checked.take (layout.bytesPerSector * checkedSectors))) :=
    if_pos (Nat.le_of_eq length_eq.symm)
  refine ⟨checked, _, length_eq, summed, ?_⟩
  rw [bootRegion, result, Checked.ok_bind, summed]
  rfl

theorem length_sums {bytesPerSector : Nat} (words : 4 ∣ bytesPerSector) (sum : UInt32) :
    (List.replicate (bytesPerSector / 4) (LittleEndian.word32 sum)).flatten.length =
      bytesPerSector := by
  rw [List.length_flatten, List.map_replicate, List.sum_replicate_nat, LittleEndian.length_word32,
    Nat.div_mul_cancel words]

/-- The boot region can be made, and takes up twelve sectors. -/
theorem bootRegion_eq_ok {layout : Layout} (large : 512 ≤ layout.bytesPerSector)
    (words : 4 ∣ layout.bytesPerSector) (serial : UInt32) :
    ∃ region, bootRegion layout serial = .ok region ∧
      region.length = regionSectors * layout.bytesPerSector := by
  obtain ⟨checked, sum, length_eq, -, result⟩ := bootRegion_summed large serial
  refine ⟨_, result, ?_⟩
  rw [List.length_append, length_eq, length_sums words, checkedSectors, regionSectors]
  omega

/-! ### Reading the boot region -/

/-- The sector of the boot region that describes the medium. -/
def mediumSectorIndex : Nat := 9

/-- The boot sector comes first, and the medium sector behind eight extended ones. -/
theorem parts_of_bootRegion {layout : Layout} {serial : UInt32} {region : List UInt8}
    (result : bootRegion layout serial = .ok region) :
    ∃ boot extended medium rest, bootSector layout serial = .ok boot ∧
      extendedSector layout.bytesPerSector = .ok extended ∧
      mediumSector layout.bytesPerSector layout.eraseBlockBytes = .ok medium ∧
      region = boot ++ (List.replicate 8 extended).flatten ++ (medium ++ rest) := by
  obtain ⟨checked, checkedResult, summed⟩ := Checked.bind_eq_ok_iff.1 result
  obtain ⟨sum, -, whole⟩ := Checked.bind_eq_ok_iff.1 summed
  obtain ⟨boot, bootResult, others⟩ := Checked.bind_eq_ok_iff.1 checkedResult
  obtain ⟨extended, extendedResult, others⟩ := Checked.bind_eq_ok_iff.1 others
  obtain ⟨medium, mediumResult, parts⟩ := Checked.bind_eq_ok_iff.1 others
  cases whole
  cases parts
  exact ⟨boot, extended, medium, _, bootResult, extendedResult, mediumResult,
    by simp only [List.append_assoc]; rfl⟩

/-- The first sector of the boot region records the layout. -/
theorem record_of_bootRegion {layout : Layout} (recordable : layout.Recordable) {serial : UInt32}
    {region : List UInt8} (result : bootRegion layout serial = .ok region) :
    (BootNumbers.read (region.take layout.bytesPerSector)).Record layout := by
  obtain ⟨boot, extended, medium, rest, bootResult, -, -, rfl⟩ := parts_of_bootRegion result
  obtain ⟨sector, sectorResult, length_eq, describe⟩ :=
    bootSector_eq_ok recordable.sector_ge serial
  rw [bootResult] at sectorResult
  cases sectorResult
  rw [List.append_assoc, List.take_left' length_eq]
  exact recordable.record_of_describe describe

/-- The size of an erase block is recorded too, if its field holds it. -/
theorem eraseBlock_of_bootRegion {layout : Layout} (large : 512 ≤ layout.bytesPerSector)
    (fits : layout.eraseBlockBytes < 2 ^ 32) {serial : UInt32} {region : List UInt8}
    (result : bootRegion layout serial = .ok region) :
    Sector.readNumber region (mediumSectorIndex * layout.bytesPerSector + 16) 4 =
      layout.eraseBlockBytes := by
  obtain ⟨boot, extended, medium, rest, bootResult, extendedResult, mediumResult, rfl⟩ :=
    parts_of_bootRegion result
  obtain ⟨sector, sectorResult, bootLength, -⟩ := bootSector_eq_ok large serial
  rw [bootResult] at sectorResult
  cases sectorResult
  obtain ⟨sector, sectorResult, extendedLength⟩ :=
    extendedSector_eq_ok (Nat.le_trans (by decide) large)
  rw [extendedResult] at sectorResult
  cases sectorResult
  obtain ⟨sector, sectorResult, mediumLength, number⟩ :=
    mediumSector_eq_ok large layout.eraseBlockBytes
  rw [mediumResult] at sectorResult
  cases sectorResult
  have before : (boot ++ (List.replicate 8 extended).flatten).length =
      mediumSectorIndex * layout.bytesPerSector := by
    simp only [List.length_append, List.length_flatten, List.map_replicate, List.sum_replicate_nat,
      bootLength, extendedLength, mediumSectorIndex]
    omega
  rw [Sector.readNumber_of_read (Sector.read_middle before) (by omega), number]
  exact Nat.mod_eq_of_lt fits

/-- Where a boot region is found, the layout and the size of an erase block are read. -/
theorem read_of_bootRegion {layout : Layout} (recordable : layout.Recordable)
    (fits : layout.eraseBlockBytes < 2 ^ 32) {serial : UInt32} {region : List UInt8}
    (result : bootRegion layout serial = .ok region) {whole : List UInt8} {offset : Nat}
    (found : Sector.read whole offset region.length = region) :
    (BootNumbers.read (Sector.read whole offset layout.bytesPerSector)).Record layout ∧
      Sector.readNumber whole (offset + (mediumSectorIndex * layout.bytesPerSector + 16)) 4 =
        layout.eraseBlockBytes := by
  have large := recordable.sector_ge
  obtain ⟨made, madeResult, length_eq⟩ := bootRegion_eq_ok large
    (Nat.dvd_trans (by decide) recordable.sector_whole) serial
  rw [result] at madeResult
  cases madeResult
  unfold regionSectors at length_eq
  refine ⟨?_, ?_⟩
  · rw [Sector.read_begin found (by omega)]
    exact record_of_bootRegion recordable result
  · rw [Sector.readNumber_of_read found (by unfold mediumSectorIndex; omega)]
    exact eraseBlock_of_bootRegion large fits result

end CardFormat.ExFat
