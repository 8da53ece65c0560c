/-
This file says what every card that is planned has in common, whichever filesystem it gets:
its volume can be placed, in stretches that rise behind the partition table and end with a
sector of the card. No stretch is wider than a block. Those of a FAT volume are a few
sectors; the widest of an exFAT volume is the bitmap, and a planned heap has so few clusters
that it fits.
-/

import CardFormat.Proofs.ExFat.Image
import CardFormat.Proofs.Fat.Image

namespace CardFormat

/-! ### The stretches of a FAT volume -/

namespace Fat

variable {params : Params} {area : FatArea} {sector : Nat} {bytes : List UInt8}
  {placement : Placement}

theorem size_of_atSector (result : atSector params area sector bytes = .ok placement) :
    placement.bytes.size = bytes.length := by
  obtain ⟨offset, -, equal⟩ := Checked.bind_eq_ok_iff.1 result
  cases equal
  exact Content.size_ofList bytes

/-- A stretch of the boot record is up to three sectors. -/
theorem bootRecord_narrow (fits : Fits params area) (label : FatLabel) (serial : UInt32)
    {record : Placements}
    (result : bootRecord params area
      (bootParameters params area (params.totalSectors - area.start) label serial) = .ok record)
    (member : .ok placement ∈ record) : placement.bytes.size ≤ 3 * params.bytesPerSector := by
  have size := fits.bytesPerSector_eq label serial
  have large : 512 ≤ (bootParameters params area (params.totalSectors - area.start) label
      serial).bytesPerSector.toNat := size.symm ▸ fits.valid.sector_ge
  by_cases fat32 : params.filesystem = .fat32
  · rw [bootRecord, if_pos fat32] at result
    obtain ⟨boot, bootResult, bootLength, -⟩ := fat32BootSector_eq_ok large
    obtain ⟨sentinel, sentinelResult, sentinelLength⟩ := sentinelSector_eq_ok large
    rw [bootResult, Checked.ok_bind, sentinelResult, Checked.ok_bind] at result
    obtain ⟨free, -, result⟩ := Checked.bind_eq_ok_iff.1 result
    obtain ⟨info, infoResult, infoLength⟩ := infoSector_eq_ok large (UInt32.ofNat free) 3
    obtain ⟨copyInfo, copyResult, copyLength⟩ := infoSector_eq_ok large unknownCount 3
    rw [infoResult, Checked.ok_bind, copyResult, Checked.ok_bind] at result
    cases result
    simp only [List.mem_cons, List.not_mem_nil, or_false] at member
    rcases member with placed | placed
    · rw [size_of_atSector placed.symm, List.length_append, List.length_append, bootLength,
        infoLength, sentinelLength, size]
      omega
    · rw [size_of_atSector placed.symm, List.length_append, List.length_append, bootLength,
        copyLength, sentinelLength, size]
      omega
  · have fatSectors : (bootParameters params area (params.totalSectors - area.start) label
        serial).sectorsPerFat.toNat = area.fatSectors := UInt32.toNat_ofNat_of_lt' fits.fatSectors_lt
    obtain ⟨boot, bootResult, bootLength, -⟩ := fixedRootBootSector_eq_ok
      (typeName params.filesystem) large (fatSectors.symm ▸ fits.regions.fatSectors_pos)
      (fatSectors.symm ▸ fits.regions.fatSectors_le fat32)
    rw [bootRecord, if_neg fat32, bootResult, Checked.ok_bind] at result
    cases result
    have placed := List.mem_singleton.1 member
    rw [size_of_atSector placed.symm, bootLength, size]
    omega

theorem placements_narrow (fits : Fits params area) (label : FatLabel) (serial : UInt32)
    {stretches : Placements} (result : placements params label serial = .ok stretches)
    (member : .ok placement ∈ stretches) : placement.bytes.size ≤ blockBytes := by
  have small := fits.valid.sector_le
  have entries := length_reservedEntries_le params.filesystem
  have block : 3 * 4096 ≤ blockBytes := by decide
  rw [placements, fits.layout] at result
  simp only [fits.isFat_eq_true, if_true] at result
  rw [fits.partitionSectors_eq, Attempt.lift_ok, Checked.ok_bind] at result
  obtain ⟨record, placed, equal⟩ := Checked.bind_eq_ok_iff.1 result
  cases equal
  simp only [List.mem_append, fatHeads, List.mem_cons, List.not_mem_nil, or_false] at member
  rcases member with ((boot | first | second) | name) | last
  · have narrow := bootRecord_narrow fits label serial (Attempt.lift_eq_ok_iff.1 placed) boot
    omega
  · rw [size_of_atSector first.symm]
    omega
  · rw [size_of_atSector second.symm]
    omega
  · unfold rootLabel at name
    cases entry : label.entryName with
    | none =>
      rw [entry] at name
      cases name
    | some bytes =>
      rw [entry] at name
      rw [size_of_atSector (List.mem_singleton.1 name).symm, length_labelEntry]
      decide
  · obtain ⟨offset, -, equal⟩ := Checked.bind_eq_ok_iff.1 last.symm
    cases equal
    rw [Placement.finish, Content.size_empty]
    exact Nat.zero_le _

end Fat

/-! ### The stretches of an exFAT volume -/

namespace ExFat

variable {layout : Layout} {sector : Nat} {cluster : Checked Nat} {bytes : Content}
  {placement : Placement}

theorem size_of_atSector (result : atSector layout sector (.ok bytes) = .ok placement) :
    placement.bytes.size = bytes.size := by
  obtain ⟨offset, -, equal⟩ := Checked.bind_eq_ok_iff.1 result
  cases equal
  rfl

theorem size_of_atCluster (result : atCluster layout cluster (.ok bytes) = .ok placement) :
    placement.bytes.size = bytes.size := by
  obtain ⟨index, -, result⟩ := Checked.bind_eq_ok_iff.1 result
  obtain ⟨offset, -, equal⟩ := Checked.bind_eq_ok_iff.1 result
  cases equal
  rfl

/-- A planned volume needs only a few clusters for itself. -/
theorem systemClusters_le_of_planned {params : Params} {area : ExFatArea}
    (planned : PlannedExFat params area) :
    clustersFor ((area.clusters + 7) / 8) params.clusterBytes +
      clustersFor upcaseTable.length params.clusterBytes ≤ 16 := by
  have few := planned.clusters_le
  have cluster := planned.cluster
  simp only [List.mem_cons, List.not_mem_nil, or_false] at cluster
  rw [clustersFor, clustersFor, Params.clusterBytes, planned.sector_eq, length_upcaseTable]
  rcases cluster with equal | equal | equal <;> rw [equal] <;> omega

theorem placements_narrow {params : Params} {area : ExFatArea} (usable : params.Usable)
    (isExFat : params.layout = .exFat area) (planned : PlannedExFat params area)
    (label : ExFatLabel) (serial : UInt32) {stretches : Placements}
    (result : placements params label serial = .ok stretches)
    (member : .ok placement ∈ stretches) : placement.bytes.size ≤ blockBytes := by
  obtain ⟨described, sound⟩ := ofParams_of_planned usable isExFat planned
  obtain ⟨region, regionResult, regionLength⟩ := bootRegion_eq_ok sound.sector_ge
    (Nat.dvd_trans (by decide) sound.sector_whole) serial
  obtain ⟨entries, entriesResult, entriesLength⟩ := sound.fatEntries_eq_ok
  obtain ⟨bitmap, bitmapResult, bitmapLength⟩ := sound.bitmap_eq_ok
  obtain ⟨root, rootResult, rootLength⟩ := sound.rootDirectory_eq_ok label
  have clusters : (Layout.described params area upcaseTable.length).clusterCount ≤ 2 ^ 22 :=
    planned.clusters_le
  have system : (Layout.described params area upcaseTable.length).bitmapClusters +
      (Layout.described params area upcaseTable.length).upcaseClusters ≤ 16 :=
    systemClusters_le_of_planned planned
  have sectorSize : (Layout.described params area upcaseTable.length).bytesPerSector = 512 :=
    planned.sector_eq
  rw [placements, described, Checked.ok_bind, regionResult, Attempt.lift_ok, Checked.ok_bind]
    at result
  cases result
  generalize Layout.described params area upcaseTable.length = layout at *
  rw [sectorSize, regionSectors] at regionLength
  rw [Content.length_toList] at bitmapLength
  have block : blockBytes = 4194304 := rfl
  simp only [layoutPlacements, entriesResult, bitmapResult, rootResult, Checked.ok_bind,
    Checked.pure_eq_ok, List.mem_cons, List.not_mem_nil, or_false] at member
  rcases member with first | second | table | map | upcase | directory | last
  · rw [size_of_atSector first.symm, Content.size_ofList]
    omega
  · rw [size_of_atSector second.symm, Content.size_ofList]
    omega
  · rw [size_of_atSector table.symm, Content.size_ofList]
    omega
  · rw [size_of_atCluster map.symm]
    omega
  · rw [size_of_atCluster upcase.symm, Content.size_ofList, length_upcaseTable]
    decide
  · rw [size_of_atCluster directory.symm, Content.size_ofList]
    omega
  · rw [size_of_atCluster last.symm, Content.size_empty]
    exact Nat.zero_le _

end ExFat

/-! ### The volume of a planned card -/

/-- The volume of a card is placed in these stretches. They are the fields, some of them joined;
the fields rise behind the partition table and end with a sector of the card, and no stretch is
wider than a block. -/
structure VolumeOf (params : Params) (label : Label) (serial : UInt32)
    (placements : List Placement) (fields : List Field) : Prop where
  placed : volumePlacements params label serial = .ok (placements.map .ok)
  joins : Stream.Joins (placements.map Placement.field) fields
  rising : Stream.Rising sectorBytes fields
  whole : Stream.stop sectorBytes fields % sectorBytes = 0
  inside : Stream.stop sectorBytes fields ≤ params.totalSectors * params.bytesPerSector
  narrow : ∀ placement ∈ placements, placement.bytes.size ≤ blockBytes

theorem volumeOf_fat {params : Params} {area : FatArea} (fits : Fat.Fits params area)
    (label : FatLabel) (serial : UInt32) :
    ∃ placements fields, VolumeOf params (.fat label) serial placements fields := by
  obtain ⟨placements, volume, placed, -, joins, rising, -⟩ := Fat.placements_eq_ok fits label serial
  have ends := Stream.stop_append_singleton sectorBytes volume ⟨Fat.volumeEnd params area, []⟩
  refine ⟨placements, _, placed, joins,
    Stream.rising_of_le fits.sectorBytes_le_sectorPlace rising, ?_, ?_, ?_⟩
  · rw [ends]
    exact fits.volumeEnd_whole
  · rw [ends]
    exact fits.volumeEnd_le
  · intro placement member
    exact Fat.placements_narrow fits label serial placed (List.mem_map_of_mem member)

theorem volumeOf_exFat {params : Params} {area : ExFatArea} (usable : params.Usable)
    (isExFat : params.layout = .exFat area) (planned : PlannedExFat params area)
    (label : ExFatLabel) (serial : UInt32) :
    ∃ placements fields, VolumeOf params (.exFat label) serial placements fields := by
  obtain ⟨described, sound⟩ := ExFat.ofParams_of_planned usable isExFat planned
  obtain ⟨placements, -, volume, placed, -, -, -, fields, rising⟩ :=
    ExFat.placements_eq_ok sound described rfl label serial
  have regions := usable.valid.layout
  rw [isExFat] at regions
  have start : 0 < area.start := by
    rw [planned.area_eq, planned.alignment_eq]
    exact Nat.mul_pos (by decide) sound.cluster_pos
  have ends := Stream.stop_append_singleton sectorBytes volume
    ⟨ExFat.volumeEnd (.described params area ExFat.upcaseTable.length), []⟩
  refine ⟨placements, _, placed, fields ▸ Stream.Joins.refl _,
    Stream.rising_of_le (sound.sectorBytes_le_sectorPlace start) rising, ?_, ?_, ?_⟩
  · rw [ends]
    exact sound.volumeEnd_whole
  · rw [ends]
    exact Nat.le_trans sound.volumeEnd_le (Nat.mul_le_mul_right _ regions.end_le)
  · intro placement member
    exact ExFat.placements_narrow usable isExFat planned label serial placed
      (List.mem_map_of_mem member)

/-- A filesystem takes labels of its own kind. -/
theorem isExFat_of_forFilesystem {filesystem : Filesystem} {text : Option String} {label : Label}
    (labelled : Label.forFilesystem filesystem text = .ok label) :
    match label with
    | .fat _ => filesystem ≠ .exFat
    | .exFat _ => filesystem = .exFat := by
  unfold Label.forFilesystem at labelled
  cases filesystem with
  | exFat =>
    cases outcome : ExFatLabel.ofText (text.getD "") with
    | error objection =>
      simp only [outcome] at labelled
      cases labelled
    | ok encoded =>
      simp only [outcome] at labelled
      cases labelled
      rfl
  | _ =>
    cases outcome : FatLabel.ofText (text.getD "") with
    | error objection =>
      simp only [outcome] at labelled
      cases labelled
    | ok encoded =>
      simp only [outcome] at labelled
      cases labelled
      exact Filesystem.noConfusion

/-- So the label is of the same kind as the layout of accepted parameters. -/
theorem layout_of_label {params : Params} (valid : params.Valid) {text : Option String}
    {label : Label} (labelled : Label.forFilesystem params.filesystem text = .ok label) :
    (∃ area name, params.layout = .fat area ∧ label = .fat name) ∨
      ∃ area name, params.layout = .exFat area ∧ label = .exFat name := by
  have kind := isExFat_of_forFilesystem labelled
  have regions := valid.layout
  cases layout : params.layout with
  | fat area =>
    rw [layout] at regions
    cases label with
    | fat name => exact .inl ⟨area, name, rfl, rfl⟩
    | exFat name => exact absurd kind regions.isFat
  | exFat area =>
    rw [layout] at regions
    cases label with
    | fat name => exact absurd regions.isExFat kind
    | exFat name => exact .inr ⟨area, name, rfl, rfl⟩

/-- Every planned card has a volume for a label that its filesystem takes. -/
theorem volumeOf_planned {params : Params} {sectors : Nat} (planned : params.PlannedFor sectors)
    {text : Option String} {label : Label}
    (labelled : Label.forFilesystem params.filesystem text = .ok label) (serial : UInt32) :
    ∃ placements fields, VolumeOf params label serial placements fields := by
  obtain ⟨area, name, layout, rfl⟩ | ⟨area, name, layout, rfl⟩ :=
    layout_of_label planned.valid labelled
  · exact volumeOf_fat (Fat.fits_of_planned planned layout) name serial
  · have solved := planned.layout
    rw [layout] at solved
    exact volumeOf_exFat planned.usable layout solved name serial

end CardFormat
