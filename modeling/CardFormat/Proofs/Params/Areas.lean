/-
This file sizes the regions of a FAT volume for a task whose device is large enough: if
the first data sector that is tried lies on the device and leaves two clusters of the
device in front, the first FATs already suffice there and the search settles. What the
halvings of clusters and of the alignment do is said one step at a time.
-/

import CardFormat.Proofs.Params.Settling

namespace CardFormat.FatTask

variable {task : FatTask}

/-- The tasks of real cards are regular. -/
theorem regular_of_le {total bits sector cluster alignment : Nat} (total_le : total ≤ 2 ^ 32)
    (bits_pos : 0 < bits) (bits_le : bits ≤ 32) (sector_pos : 0 < sector)
    (sector_le : sector ≤ 4096) (cluster_pos : 0 < cluster) (alignment_pos : 0 < alignment)
    (alignment_le : alignment ≤ 2 ^ 20) :
    Regular ⟨total, bits, sector, cluster, alignment⟩ where
  bits_pos := bits_pos
  sector_pos := sector_pos
  cluster_pos := cluster_pos
  aligned := alignment_pos
  sector_fits := by simp only; omega
  entries_fit := by
    have clusters := Nat.div_le_self total cluster
    have product : (total / cluster + 2) * bits ≤ (2 ^ 32 + 2) * 32 :=
      Nat.mul_le_mul (by omega) bits_le
    simp only
    omega
  start_fits := by simp only; omega

/-- The FAT size that the search starts with. -/
def firstSize (task : FatTask) : Nat :=
  task.tableSectors (task.totalSectors / task.sectorsPerCluster)

/-- Behind two clusters of metadata, the first FATs have room for all entries. -/
theorem neededFrom_le_firstSize (positive : 0 < task.sectorsPerCluster) {dataStart : Nat}
    (behind : 2 * task.sectorsPerCluster ≤ dataStart) (inside : dataStart ≤ task.totalSectors) :
    task.neededFrom dataStart ≤ task.firstSize := by
  refine tableSectors_mono ?_
  rw [clustersFrom, ← Nat.add_mul_div_right _ _ positive]
  exact Nat.div_le_div_right (by omega)

theorem Regular.firstSize_le (regular : task.Regular) : task.firstSize ≤ 2 ^ 61 :=
  regular.tableSectors_le (Nat.le_add_right _ 2)

/-- A volume with a fixed root directory on a device that is large enough. -/
theorem fixedRootArea_eq_ok (regular : task.Regular) {rootSectors : Nat}
    (roots : rootDirectorySectors fixedRootEntries task.bytesPerSector = .ok rootSectors)
    (rootFits : rootSectors ≤ 2 ^ 61)
    (behind : 2 * task.sectorsPerCluster ≤ task.fixedRootData rootSectors task.firstSize)
    (inside : task.fixedRootData rootSectors task.firstSize ≤ task.totalSectors) :
    ∃ area, task.fixedRootArea = .ok area ∧ task.Settled rootSectors area ∧ area.reserved = 1 ∧
      area.start + area.size ≤ task.fixedRootData rootSectors task.firstSize := by
  have room := neededFrom_le_firstSize regular.cluster_pos behind inside
  obtain ⟨area, ends, settled⟩ := regular.sized.settleFixedRoot_of_room rootFits
    (fun _ => regular.firstSize_le) (roomyFrom_self inside room) (settlingPasses - 2)
  refine ⟨area, ?_, settled⟩
  rw [fixedRootArea, roots, Attempt.lift_ok, Checked.ok_bind]
  exact (regular.sized.firstFatSectors_endsAs.bind ends).eq regular

/-- A FAT32 volume on a device that is large enough, when the first FATs are not too far
from the size they need. -/
theorem fat32Area_eq_ok (regular : task.Regular) (wide : 8 ≤ task.alignment)
    (behind : 2 * task.sectorsPerCluster ≤ task.fat32Data task.firstSize)
    (inside : task.fat32Data task.firstSize ≤ task.totalSectors)
    (close : task.firstSize < task.neededFrom (task.fat32Data task.firstSize) + settlingPasses) :
    ∃ area, task.fat32Area = .ok area ∧ task.SettledFat32 area ∧
      area.start + area.size ≤ task.fat32Data task.firstSize := by
  have room := neededFrom_le_firstSize regular.cluster_pos behind inside
  obtain ⟨expected, ends, settles⟩ := regular.sized.settleFat32_of_room wide settlingPasses
    (fun _ => regular.firstSize_le) (roomyFrom_self inside room)
  obtain ⟨area, rfl, settled⟩ := settles.resolve_right fun unsettled => by omega
  exact ⟨area, (regular.sized.firstFatSectors_endsAs.bind ends).eq regular, settled⟩

/-! ### Halving clusters and alignment -/

theorem enoughClusters_of_enough {area : FatArea} (result : task.fat32Area = .ok area)
    (enough : 65525 ≤ area.clusters) : task.enoughClusters = .ok (task, area) := by
  rw [enoughClusters, result, Checked.ok_bind, dif_neg (by omega)]
  rfl

theorem enoughClusters_of_few {area : FatArea} (result : task.fat32Area = .ok area)
    (few : area.clusters < 65525) (divisible : 1 < task.sectorsPerCluster) :
    task.enoughClusters =
      enoughClusters ⟨task.totalSectors, task.entryBits, task.bytesPerSector,
        task.sectorsPerCluster / 2, task.alignment⟩ := by
  rw [enoughClusters, result, Checked.ok_bind, dif_pos ⟨few, divisible⟩]

theorem fittingReserved_of_fits {area : FatArea} (fits : area.reserved ≤ 0xFFFF) :
    task.fittingReserved area = .ok (task, area) := by
  rw [fittingReserved, dif_neg (by omega)]
  rfl

theorem fittingReserved_of_excess {area next : FatArea} (excess : 0xFFFF < area.reserved)
    (divisible : 1 < task.alignment)
    (result : fat32Area ⟨task.totalSectors, task.entryBits, task.bytesPerSector,
      task.sectorsPerCluster, task.alignment / 2⟩ = .ok next) :
    task.fittingReserved area =
      fittingReserved ⟨task.totalSectors, task.entryBits, task.bytesPerSector,
        task.sectorsPerCluster, task.alignment / 2⟩ next := by
  rw [fittingReserved, dif_pos ⟨excess, divisible⟩]
  simp only [result, Checked.ok_bind]

/-! ### Giving up clusters -/

theorem trimToFat12_of_few {area : FatArea} (few : area.clusters ≤ 4084) :
    task.trimToFat12 area = .ok area := by
  rw [trimToFat12, if_pos few]
  rfl

theorem Regular.trimToFat12_of_many (regular : task.Regular) {area : FatArea}
    (many : 4084 < area.clusters)
    (inside : area.start + task.alignment + area.size ≤ task.totalSectors) :
    task.trimToFat12 area =
      task.trimToFat12 ⟨area.reserved, area.fatSectors, area.size, area.start + task.alignment,
        task.clustersFrom (area.start + task.alignment + area.size)⟩ := by
  have fits : area.start + task.alignment < 2 ^ 64 := by
    have := regular.start_fits
    omega
  rw [trimToFat12, if_neg (by omega), dif_pos ⟨regular.aligned, inside⟩,
    Checked.word64_of_lt fits, Attempt.lift_ok, Checked.ok_bind, regular.sized.dataClusters_eq,
    Attempt.lift_ok, Checked.ok_bind]

/-- An alignment unit that is one cluster takes one cluster away. -/
theorem clustersFrom_add_alignment (same : task.sectorsPerCluster = task.alignment)
    {dataStart : Nat} (occupied : 0 < task.clustersFrom dataStart) :
    dataStart + task.alignment ≤ task.totalSectors ∧
      task.clustersFrom (dataStart + task.alignment) + 1 = task.clustersFrom dataStart := by
  obtain ⟨positive, le⟩ := Nat.div_pos_iff.1 occupied
  rw [same] at positive le
  refine ⟨by omega, ?_⟩
  rw [clustersFrom, clustersFrom, same, Nat.div_eq_sub_div positive le, Nat.sub_sub]

/-- Where an alignment unit is one cluster, clusters are given up until exactly as many are
left as FAT12 can number, and the rest of the area stays as it was. -/
theorem Regular.trimToFat12_eq_ok (regular : task.Regular)
    (same : task.sectorsPerCluster = task.alignment) {rootSectors : Nat} (area : FatArea)
    (settled : task.Settled rootSectors area) (many : 4084 ≤ area.clusters)
    (exact : task.tableSectors (4084 + 2) = area.fatSectors) :
    ∃ trimmed, task.trimToFat12 area = .ok trimmed ∧ task.Settled rootSectors trimmed ∧
      trimmed.reserved = area.reserved ∧ trimmed.clusters = 4084 := by
  -- The clusters above the limit are counted down; the start takes up what they leave.
  suffices general : ∀ excess start, task.alignment ∣ start + area.size → task.alignment ≤ start →
      start + area.size ≤ task.totalSectors →
      task.clustersFrom (start + area.size) = 4084 + excess →
      ∃ trimmed, task.trimToFat12 ⟨area.reserved, area.fatSectors, area.size, start,
          task.clustersFrom (start + area.size)⟩ = .ok trimmed ∧
        task.Settled rootSectors trimmed ∧ trimmed.reserved = area.reserved ∧
        trimmed.clusters = 4084 by
    have counted := settled.clusters_eq
    obtain ⟨reserved, fatSectors, size, start, clusters⟩ := area
    simp only at counted many
    have start := general (clusters - 4084) start settled.aligned settled.start_le settled.inside
      (by simp only; omega)
    rw [← counted] at start
    exact start
  intro excess
  induction excess with
  | zero =>
    intro start aligned startLe inside counted
    refine ⟨_, trimToFat12_of_few (by simp only; omega), ⟨settled.reserved_pos, settled.size_eq,
      inside, aligned, startLe, rfl, ?_⟩, rfl, counted⟩
    simp only [counted]
    exact exact.symm
  | succ excess inductionHypothesis =>
    intro start aligned startLe inside counted
    obtain ⟨nextInside, nextCount⟩ := clustersFrom_add_alignment same
      (show 0 < task.clustersFrom (start + area.size) by omega)
    have shift : start + task.alignment + area.size = start + area.size + task.alignment := by
      omega
    rw [regular.trimToFat12_of_many (by simp only; omega) (by simp only; omega)]
    simp only [shift]
    rw [← shift]
    exact inductionHypothesis (start + task.alignment)
      (by rw [shift]; exact Nat.dvd_add aligned (Nat.dvd_refl _)) (by omega) (by omega)
      (by rw [shift]; omega)

end CardFormat.FatTask
