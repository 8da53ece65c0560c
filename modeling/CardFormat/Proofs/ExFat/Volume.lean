/-
This file says what a new exFAT volume consists of, structure by structure, each at its
sector or cluster, and proves that this is what is placed when the layout is sound. The
table of clusters has room for its entries, and each structure in the heap for itself in
its clusters, so none reaches into the next.
-/

import CardFormat.ExFat.Volume
import CardFormat.Proofs.Bytes.Stream
import CardFormat.Proofs.ExFat.Bitmap
import CardFormat.Proofs.ExFat.BootRegion
import CardFormat.Proofs.ExFat.LabelEntry
import CardFormat.Proofs.ExFat.Layout
import CardFormat.Proofs.ExFat.Table
import CardFormat.Proofs.Writer

namespace CardFormat.ExFat

/-- What a volume consists of: the boot region twice, the start of the table, the bitmap,
the up-case table and the root directory. -/
def volumeFields (layout : Layout) (label : ExFatLabel) (region : List UInt8) :
    Checked (List Field) := do
  let entries ← layout.fatEntries
  let bitmap ← layout.bitmap
  let upcaseCluster ← layout.upcaseCluster
  let root ← rootDirectory layout label
  return [⟨← layout.sectorOffset 0, region⟩, ⟨← layout.sectorOffset regionSectors, region⟩,
    ⟨← layout.sectorOffset layout.fatOffset, entries⟩,
    ⟨← layout.clusterOffset firstCluster, bitmap.bytes.toList⟩,
    ⟨← layout.clusterOffset upcaseCluster, upcaseTable⟩,
    ⟨← layout.clusterOffset layout.rootCluster, root⟩]

/-- Where the volume ends on the device: behind the root directory. -/
def volumeEnd (layout : Layout) : Nat := layout.clusterPlace (layout.rootCluster + 1)

/-! ### The entries of the root directory -/

theorem length_bitmapEntry (cluster length : Nat) : (bitmapEntry cluster length).length = 32 := by
  simp only [bitmapEntry, List.length_append, List.length_cons, List.length_replicate,
    LittleEndian.length_encode]

theorem length_upcaseEntry (checksum : UInt32) (cluster length : Nat) :
    (upcaseEntry checksum cluster length).length = 32 := by
  simp only [upcaseEntry, List.length_append, List.length_cons, List.length_replicate,
    LittleEndian.length_encode, LittleEndian.length_word32]

namespace Layout.Sound

variable {layout : Layout}

/-! ### The structures can be made -/

theorem upcaseCluster_eq (sound : layout.Sound) :
    layout.upcaseCluster = .ok (firstCluster + layout.bitmapClusters) := by
  have system := sound.system_le
  have clusters := sound.clusters_fit
  exact Checked.word32_of_lt (by unfold firstCluster; omega)

theorem systemClusters_eq (sound : layout.Sound) :
    layout.systemClusters = .ok (layout.bitmapClusters + layout.upcaseClusters + 1) := by
  have system := sound.system_le
  have clusters := sound.clusters_fit
  exact Checked.word32_of_lt (by omega)

/-- The table begins with the two reserved entries and those of the system clusters. -/
theorem fatNumbers_eq (sound : layout.Sound) :
    layout.fatNumbers = .ok ([0xFFFFFFF8, 0xFFFFFFFF] ++
      chain firstCluster layout.bitmapClusters ++
      chain (firstCluster + layout.bitmapClusters) layout.upcaseClusters ++
      chain layout.rootCluster 1) := by
  have system := sound.system_le
  have clusters := sound.clusters_fit
  have root := sound.root_eq
  unfold firstCluster at root
  rw [fatNumbers, sound.upcaseCluster_eq, firstCluster, Checked.ok_bind,
    Checked.word32_of_lt (by omega), Checked.ok_bind, Checked.word32_of_lt (by omega)]
  rfl

theorem fatEntries_eq_ok (sound : layout.Sound) :
    ∃ entries, layout.fatEntries = .ok entries ∧
      entries.length = (layout.bitmapClusters + layout.upcaseClusters + 3) * 4 := by
  rw [fatEntries, sound.fatNumbers_eq]
  refine ⟨_, rfl, ?_⟩
  simp only [Sector.length_row, List.length_append, length_chain, List.length_cons,
    List.length_nil]
  omega

theorem bitmap_eq_ok (sound : layout.Sound) :
    ∃ bitmap, layout.bitmap = .ok bitmap ∧
      bitmap.bytes.toList.length = (layout.clusterCount + 7) / 8 := by
  rw [Layout.bitmap, sound.systemClusters_eq, Checked.ok_bind]
  refine ⟨_, rfl, ?_⟩
  rw [Content.length_toList, Bitmap.size_bytes, Bitmap.byteCount, Bitmap.allocateRange,
    Bitmap.clusterCount_allocatePlaces]
  rfl

theorem rootDirectory_eq_ok (sound : layout.Sound) (label : ExFatLabel) :
    ∃ root, rootDirectory layout label = .ok root ∧ root.length = 96 := by
  rw [rootDirectory, sound.upcaseCluster_eq, Checked.ok_bind]
  refine ⟨_, rfl, ?_⟩
  rw [List.length_append, List.length_append, length_labelEntry, length_bitmapEntry,
    length_upcaseEntry]

/-! ### The whole volume -/

theorem atSector_eq (sound : layout.Sound) {sector : Nat} (inside : sector ≤ layout.volumeLength)
    (bytes : Content) :
    atSector layout sector (.ok bytes) = .ok ⟨layout.sectorPlace sector, bytes⟩ := by
  rw [atSector, sound.sectorOffset_eq inside]
  rfl

theorem atCluster_eq (sound : layout.Sound) {cluster : Nat} (inHeap : firstCluster ≤ cluster)
    (inside : cluster ≤ layout.clusterCount + 2) (bytes : Content) :
    atCluster layout (.ok cluster) (.ok bytes) = .ok ⟨layout.clusterPlace cluster, bytes⟩ := by
  rw [atCluster, Checked.ok_bind, sound.clusterOffset_eq inHeap inside]
  rfl

theorem length_le_clusterBytes (sound : layout.Sound) {length : Nat} (short : length ≤ 512) :
    length ≤ layout.clusterBytes :=
  Nat.le_trans short
    (Nat.le_trans sound.sector_ge (Nat.le_mul_of_pos_left _ sound.cluster_pos))

/-- The structures of a volume follow one another. -/
theorem rising_structures (sound : layout.Sound) {region entries bitmap upcase root : List UInt8}
    (regionLength : region.length = regionSectors * layout.bytesPerSector)
    (entriesLength : entries.length = (layout.bitmapClusters + layout.upcaseClusters + 3) * 4)
    (bitmapLength : bitmap.length = (layout.clusterCount + 7) / 8)
    (upcaseLength : upcase.length = layout.upcaseBytes) (rootLength : root.length = 96) :
    Stream.Rising (layout.sectorPlace 0)
      [⟨layout.sectorPlace 0, region⟩, ⟨layout.sectorPlace regionSectors, region⟩,
        ⟨layout.sectorPlace layout.fatOffset, entries⟩,
        ⟨layout.clusterPlace firstCluster, bitmap⟩,
        ⟨layout.clusterPlace (firstCluster + layout.bitmapClusters), upcase⟩,
        ⟨layout.clusterPlace layout.rootCluster, root⟩, ⟨volumeEnd layout, []⟩] := by
  refine ⟨Nat.le_refl _, ?_, ?_, ?_, ?_, ?_, ?_, trivial⟩
  · rw [regionLength, ← sectorPlace_add, Nat.zero_add]
  · rw [regionLength, ← sectorPlace_add]
    exact sectorPlace_mono sound.fatOffset_ge
  · have table : entries.length ≤ layout.fatLength * layout.bytesPerSector := by
      have system := sound.system_le
      have few := sound.entries_le
      omega
    have first : layout.clusterPlace firstCluster = layout.sectorPlace layout.heapOffset := by
      rw [clusterPlace, Nat.sub_self, Nat.zero_mul, Nat.add_zero]
    rw [first]
    refine Nat.le_trans (Nat.add_le_add_left table _) ?_
    rw [← sectorPlace_add]
    exact sectorPlace_mono sound.fatEnd_le
  · rw [clusterPlace_add (Nat.le_refl _), bitmapLength]
    exact Nat.add_le_add_left sound.bitmap_le _
  · rw [sound.root_eq, clusterPlace_add (Nat.le_add_right _ _), upcaseLength]
    exact Nat.add_le_add_left sound.upcase_le _
  · have inHeap : firstCluster ≤ layout.rootCluster := by
      rw [sound.root_eq, Nat.add_assoc]
      exact Nat.le_add_right _ _
    rw [volumeEnd, clusterPlace_add inHeap, Nat.one_mul, rootLength]
    exact Nat.add_le_add_left (sound.length_le_clusterBytes (by decide)) _

/-- The volume is placed as its structures, in rising order, up to its end. -/
theorem layoutPlacements_eq (sound : layout.Sound)
    (upcase : layout.upcaseBytes = upcaseTable.length) (label : ExFatLabel) {region : List UInt8}
    (regionLength : region.length = regionSectors * layout.bytesPerSector) :
    ∃ (placements : List Placement) (fields : List Field),
      layoutPlacements layout label region = placements.map .ok ∧
      volumeFields layout label region = .ok fields ∧
      placements.map Placement.field = fields ++ [⟨volumeEnd layout, []⟩] ∧
      Stream.Rising (layout.sectorPlace 0) (fields ++ [⟨volumeEnd layout, []⟩]) := by
  obtain ⟨entries, entriesResult, entriesLength⟩ := sound.fatEntries_eq_ok
  obtain ⟨bitmap, bitmapResult, bitmapLength⟩ := sound.bitmap_eq_ok
  obtain ⟨root, rootResult, rootLength⟩ := sound.rootDirectory_eq_ok label
  have system := sound.system_le
  have clusters := sound.clusters_fit
  have rootCluster := sound.root_eq
  have table := sound.fatOffset_ge
  have fat := sound.fatEnd_le
  have heap := sound.heapEnd_le
  unfold firstCluster at rootCluster
  refine ⟨[⟨layout.sectorPlace 0, .ofList region⟩,
      ⟨layout.sectorPlace regionSectors, .ofList region⟩,
      ⟨layout.sectorPlace layout.fatOffset, .ofList entries⟩,
      ⟨layout.clusterPlace firstCluster, bitmap.bytes⟩,
      ⟨layout.clusterPlace (firstCluster + layout.bitmapClusters), .ofList upcaseTable⟩,
      ⟨layout.clusterPlace layout.rootCluster, .ofList root⟩, ⟨volumeEnd layout, .empty⟩],
    [⟨layout.sectorPlace 0, region⟩, ⟨layout.sectorPlace regionSectors, region⟩,
      ⟨layout.sectorPlace layout.fatOffset, entries⟩,
      ⟨layout.clusterPlace firstCluster, bitmap.bytes.toList⟩,
      ⟨layout.clusterPlace (firstCluster + layout.bitmapClusters), upcaseTable⟩,
      ⟨layout.clusterPlace layout.rootCluster, root⟩], ?_, ?_, ?_, ?_⟩
  · rw [layoutPlacements, entriesResult, bitmapResult, sound.upcaseCluster_eq, rootResult,
      Checked.word32_of_lt (by omega)]
    simp only [Checked.ok_bind, Checked.pure_eq_ok]
    rw [sound.atSector_eq (Nat.zero_le _), sound.atSector_eq (by unfold regionSectors; omega),
      sound.atSector_eq (by omega),
      sound.atCluster_eq (Nat.le_refl _) (by unfold firstCluster; omega),
      sound.atCluster_eq (Nat.le_add_right _ _) (by unfold firstCluster; omega),
      sound.atCluster_eq (by unfold firstCluster; omega) (by omega),
      sound.atCluster_eq (by unfold firstCluster; omega) (by omega)]
    rfl
  · rw [volumeFields, entriesResult, Checked.ok_bind, bitmapResult, Checked.ok_bind,
      sound.upcaseCluster_eq, Checked.ok_bind, rootResult, Checked.ok_bind,
      sound.sectorOffset_eq (Nat.zero_le _), Checked.ok_bind,
      sound.sectorOffset_eq (by unfold regionSectors; omega), Checked.ok_bind,
      sound.sectorOffset_eq (by omega), Checked.ok_bind,
      sound.clusterOffset_eq (Nat.le_refl _) (by unfold firstCluster; omega), Checked.ok_bind,
      sound.clusterOffset_eq (Nat.le_add_right _ _) (by unfold firstCluster; omega),
      Checked.ok_bind, sound.clusterOffset_eq (by unfold firstCluster; omega) (by omega)]
    rfl
  · simp only [List.map_cons, List.map_nil, Placement.field, Content.toList_ofList,
      Content.toList_empty]
    rfl
  · exact sound.rising_structures regionLength entriesLength bitmapLength upcase.symm rootLength

end Layout.Sound

/-- The volume of a sound layout is placed as its boot region and its structures. -/
theorem placements_eq_ok {params : Params} {layout : Layout} (sound : layout.Sound)
    (described : Layout.ofParams params upcaseTable.length = .ok layout)
    (upcase : layout.upcaseBytes = upcaseTable.length) (label : ExFatLabel) (serial : UInt32) :
    ∃ (stretches : List Placement) (region : List UInt8) (fields : List Field),
      placements params label serial = .ok (stretches.map .ok) ∧
      bootRegion layout serial = .ok region ∧
      region.length = regionSectors * layout.bytesPerSector ∧
      volumeFields layout label region = .ok fields ∧
      stretches.map Placement.field = fields ++ [⟨volumeEnd layout, []⟩] ∧
      Stream.Rising (layout.sectorPlace 0) (fields ++ [⟨volumeEnd layout, []⟩]) := by
  obtain ⟨region, regionResult, regionLength⟩ := bootRegion_eq_ok sound.sector_ge
    (Nat.dvd_trans (by decide) sound.sector_whole) serial
  obtain ⟨stretches, fields, placed, structures, equal, rising⟩ :=
    sound.layoutPlacements_eq upcase label regionLength
  refine ⟨stretches, region, fields, ?_, regionResult, regionLength, structures, equal, rising⟩
  rw [placements, described, Checked.ok_bind, regionResult, Attempt.lift_ok, Checked.ok_bind,
    placed]
  rfl

/-- The sectors of the partition where the boot region and its copy begin. -/
def bootRegionSectors : List Nat := [0, regionSectors]

/-- Among the structures of a volume are the boot region and its copy. -/
theorem region_mem_of_volumeFields {layout : Layout} (sound : layout.Sound) {label : ExFatLabel}
    {region : List UInt8} {fields : List Field}
    (result : volumeFields layout label region = .ok fields) {sector : Nat}
    (boots : sector ∈ bootRegionSectors) : ⟨layout.sectorPlace sector, region⟩ ∈ fields := by
  have table := sound.fatOffset_ge
  have fat := sound.fatEnd_le
  have heap := sound.heapEnd_le
  obtain ⟨entries, -, result⟩ := Checked.bind_eq_ok_iff.1 result
  obtain ⟨bitmap, -, result⟩ := Checked.bind_eq_ok_iff.1 result
  obtain ⟨upcaseCluster, -, result⟩ := Checked.bind_eq_ok_iff.1 result
  obtain ⟨root, -, result⟩ := Checked.bind_eq_ok_iff.1 result
  rw [sound.sectorOffset_eq (Nat.zero_le _), Checked.ok_bind,
    sound.sectorOffset_eq (by unfold regionSectors; omega), Checked.ok_bind] at result
  obtain ⟨table, -, result⟩ := Checked.bind_eq_ok_iff.1 result
  obtain ⟨first, -, result⟩ := Checked.bind_eq_ok_iff.1 result
  obtain ⟨second, -, result⟩ := Checked.bind_eq_ok_iff.1 result
  obtain ⟨third, -, equal⟩ := Checked.bind_eq_ok_iff.1 result
  cases equal
  rcases List.mem_pair.1 boots with rfl | rfl
  · exact List.mem_cons_self
  · exact List.mem_cons_of_mem _ List.mem_cons_self

/-- A volume begins with a boot sector that records its layout. -/
theorem placements_begin {params : Params} {layout : Layout} (recordable : layout.Recordable)
    (described : Layout.ofParams params upcaseTable.length = .ok layout) (label : ExFatLabel)
    (serial : UInt32) :
    ∃ record rest, placements params label serial = .ok (.ok record :: rest) ∧
      record.offset = layout.sectorPlace 0 ∧
      (BootNumbers.read (record.bytes.toList.take layout.bytesPerSector)).Record layout := by
  obtain ⟨region, regionResult, -⟩ := bootRegion_eq_ok recordable.sector_ge
    (Nat.dvd_trans (by decide) recordable.sector_whole) serial
  have first : layoutPlacements layout label region =
      .ok ⟨layout.sectorPlace 0, .ofList region⟩ :: (layoutPlacements layout label region).tail := by
    rw [layoutPlacements, Checked.pure_eq_ok, recordable.atSector_eq (Nat.zero_le _)]
    rfl
  refine ⟨⟨layout.sectorPlace 0, .ofList region⟩, (layoutPlacements layout label region).tail, ?_,
    rfl, ?_⟩
  · rw [← first, placements, described, Checked.ok_bind, regionResult, Attempt.lift_ok,
      Checked.ok_bind]
    rfl
  · rw [Content.toList_ofList]
    exact record_of_bootRegion recordable regionResult

end CardFormat.ExFat
