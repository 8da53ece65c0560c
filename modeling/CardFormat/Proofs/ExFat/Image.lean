/-
This file puts an exFAT card together. Whatever a device in memory held before, after the
partition table and the volume were written it holds exactly these, with zeros between
their structures, up to the end of the root directory; behind it nothing has changed.
-/

import CardFormat.Proofs.ExFat.Volume
import CardFormat.Proofs.Format.Card

namespace CardFormat.ExFat

variable {params : Params} {area : ExFatArea}

/-! ### The layout of a planned card -/

/-- A planned heap has the clusters that the volume needs for itself. -/
theorem systemClusters_le (planned : PlannedExFat params area) :
    clustersFor ((area.clusters + 7) / 8) params.clusterBytes +
      clustersFor upcaseTable.length params.clusterBytes + 1 ≤ area.clusters := by
  have least := planned.clusters_ge
  have cluster := planned.cluster
  simp only [List.mem_cons, List.not_mem_nil, or_false] at cluster
  rw [clustersFor, clustersFor, Params.clusterBytes, planned.sector_eq, length_upcaseTable]
  rcases cluster with equal | equal | equal <;> rw [equal] <;> omega

theorem possible_of_planned (planned : PlannedExFat params area) :
    Layout.Possible params area upcaseTable.length := by
  have alignment := planned.alignment_eq
  have cluster : params.sectorsPerCluster ≤ 1024 := by
    have member := planned.cluster
    simp only [List.mem_cons, List.not_mem_nil, or_false] at member
    omega
  refine ⟨systemClusters_le planned, ?_⟩
  rw [planned.sector_eq]
  omega

/-- There is a layout for a planned card, and it is sound. -/
theorem ofParams_of_planned (usable : params.Usable) (layout : params.layout = .exFat area)
    (planned : PlannedExFat params area) :
    Layout.ofParams params upcaseTable.length =
        .ok (.described params area upcaseTable.length) ∧
      (Layout.described params area upcaseTable.length).Sound :=
  ⟨Layout.ofParams_of_possible usable.valid layout (possible_of_planned planned),
    Layout.sound_described usable.valid usable.bytes_fit layout (systemClusters_le planned)⟩

namespace Layout.Sound

variable {layout : Layout}

/-- The end of the volume is an offset that the program computes. -/
theorem volumeEnd_eq (sound : layout.Sound) :
    layout.clusterOffset (layout.rootCluster + 1) = .ok (volumeEnd layout) := by
  have root := sound.root_eq
  have system := sound.system_le
  unfold firstCluster at root
  exact sound.clusterOffset_eq (by unfold firstCluster; omega) (by omega)

/-- A partition behind the first sector leaves the partition table alone. -/
theorem sectorBytes_le_sectorPlace (sound : layout.Sound) (start : 0 < layout.partitionOffset) :
    sectorBytes ≤ layout.sectorPlace 0 :=
  Nat.le_trans sound.sector_ge (Nat.le_mul_of_pos_left _ start)

theorem volumeEnd_whole (sound : layout.Sound) : volumeEnd layout % sectorBytes = 0 :=
  Nat.mod_eq_zero_of_dvd (Nat.dvd_mul_left_of_dvd sound.sector_whole _)

theorem volumeEnd_le (sound : layout.Sound) :
    volumeEnd layout ≤ (layout.partitionOffset + layout.volumeLength) * layout.bytesPerSector := by
  have root := sound.root_eq
  have system := sound.system_le
  have inHeap : layout.rootCluster + 1 - firstCluster ≤ layout.clusterCount := by
    unfold firstCluster at root ⊢
    omega
  have product := Nat.mul_le_mul_right layout.sectorsPerCluster inHeap
  exact sectorPlace_mono (Nat.le_trans (Nat.add_le_add_left product _) sound.heapEnd_le)

end Layout.Sound

/-! ### The card -/

/-- Writing an exFAT card succeeds on every device in memory of its size that takes writes.
The device then begins with the partition table and the structures of the volume, each in
its sector or cluster, with zeros between them up to the end of the root directory. Behind
it nothing has changed. -/
theorem writeCard_exFat {sectors : Nat} {forceFat32 bigClusters : Bool} {warnings : List Warning}
    (planned : plan sectors forceFat32 bigClusters = .ok ⟨warnings, .ok params⟩)
    (isExFat : params.layout = .exFat area) {device : MemoryDevice}
    (size : device.sectors = sectors) (opened : device.closed = false)
    (unlimited : device.writeLimit = none) (label : ExFatLabel) (signature serial : UInt32)
    (notes : List Warning) :
    ∃ final table layout region volume image finish,
      throughWriter (writeCard ⟨params, .exFat label, notes⟩ ⟨.ok signature, serial⟩) device =
        .ok (signature, finish) final ∧
      Layout.ofParams params 5836 = .ok layout ∧
      layout.clusterOffset (layout.rootCluster + 1) = .ok finish ∧
      finish ≤ sectors * sectorBytes ∧
      PartitionTable.ofParams params signature false = .ok table ∧
      bootRegion layout serial = .ok region ∧
      volumeFields layout label region = .ok volume ∧
      Sector.ConsistsOf image finish (⟨0, table.encode⟩ :: volume) ∧
      final.data.toList = image ++ device.data.toList.drop finish ∧
      final.sectors = sectors := by
  have facts := plannedFor_of_plan planned
  have solved := facts.layout
  have regions := facts.valid.layout
  rw [isExFat] at solved regions
  obtain ⟨described, sound⟩ := ofParams_of_planned facts.usable isExFat solved
  obtain ⟨region, regionResult, regionLength⟩ := bootRegion_eq_ok sound.sector_ge
    (Nat.dvd_trans (by decide) sound.sector_whole) serial
  obtain ⟨placements, volume, placed, structures, fields, rising⟩ :=
    sound.layoutPlacements_eq rfl label regionLength
  have result : volumePlacements params (.exFat label) serial = .ok (placements.map .ok) := by
    rw [volumePlacements, ExFat.placements, described, Checked.ok_bind, regionResult,
      Attempt.lift_ok, Checked.ok_bind, placed]
    rfl
  have start : 0 < area.start := by
    rw [solved.area_eq, solved.alignment_eq]
    exact Nat.mul_pos (by decide) sound.cluster_pos
  have behind := Stream.rising_of_le (sound.sectorBytes_le_sectorPlace start) rising
  obtain ⟨final, table, image, written, inside, tableResult, consists, data, same⟩ :=
    writeCard_planned facts size opened unlimited (.exFat label) signature serial notes
      (Nat.le_trans sound.volumeEnd_le (Nat.mul_le_mul_right _ regions.end_le)) result
      (fields ▸ Stream.Joins.refl _) behind sound.volumeEnd_whole
  rw [← length_upcaseTable]
  exact ⟨final, table, _, region, volume, image, _, written, described, sound.volumeEnd_eq, inside,
    tableResult, regionResult, structures, consists, data, same⟩

/-- On the smallest card with an exFAT volume, writing ends behind three clusters of the heap. -/
theorem writeCard_aboveThirtyTwoGibibytes :
    ∃ final, throughWriter (writeCard
      ⟨⟨67108865, 512, 256, 32768, .exFat, 255, 63,
        .exFat ⟨32768, 67076097, 16384, 16384, 32768, 261888⟩⟩, .exFat ⟨"", [], by decide⟩, []⟩
      ⟨.ok 5, 7⟩) (MemoryDevice.image 67108865) = .ok (5, (65536 + 3 * 256) * 512) final := by
  obtain ⟨final, -, layout, -, -, -, finish, result, described, ends, -⟩ :=
    writeCard_exFat plan_aboveThirtyTwoGibibytes rfl
      (show (MemoryDevice.image 67108865).sectors = 67108865 from rfl) rfl rfl ⟨"", [], by decide⟩
      5 7 []
  cases described
  cases ends
  exact ⟨final, result⟩

end CardFormat.ExFat
