/-
This file plans the cards that are divided for FAT12 and FAT16. The ranges of the clusters
follow from the first data sector that is tried, which bounds the data from behind, and
from the size of the FATs, which bounds it from the front. Between the two filesystems lie
capacities with too many clusters for the one and too few for the other; there clusters
are given up, and the FATs keep their size.
-/

import CardFormat.Proofs.Params.Areas
import CardFormat.Proofs.Params.Planned

namespace CardFormat

theorem Params.rootSectorCount_eq {params : Params}
    (kind : params.filesystem = .fat12 ∨ params.filesystem = .fat16)
    (sector : params.bytesPerSector = 512) : params.rootSectorCount = 32 := by
  rw [rootSectorCount, rootEntries, sector]
  rcases kind with kind | kind <;> rw [kind] <;> rfl

/-- With FAT12 or FAT16, what is left to check are the clusters. -/
theorem Division.planned_small {sectors cluster alignment : Nat} {usual filesystem : Filesystem}
    {area : FatArea} (total : sectors ≤ 2 ^ 32)
    (usualKind : usual = .fat12 ∨ usual = .fat16)
    (kind : filesystem = .fat12 ∨ filesystem = .fat16)
    (clusterPower : isPowerOfTwo cluster = true) (cluster_le : cluster ≤ 128)
    (alignmentPower : isPowerOfTwo alignment = true)
    (result : Division.smallArea ⟨sectors, 512, cluster, alignment, usual, []⟩ =
      .ok (filesystem, area))
    (settled : FatTask.Settled ⟨sectors, filesystem.entryBits, 512, cluster, alignment⟩ 32 area)
    (reserved : area.reserved = 1)
    (clusters : (clusterRange filesystem).1 ≤ area.clusters ∧
      area.clusters ≤ (clusterRange filesystem).2) (geometry : Nat × Nat) :
    Division.Plannable ⟨sectors, 512, cluster, alignment, usual, []⟩ geometry := by
  have outcome : Division.params ⟨sectors, 512, cluster, alignment, usual, []⟩ geometry =
      .ok (Division.fatParams ⟨sectors, 512, cluster, alignment, usual, []⟩ geometry filesystem
        cluster alignment area, []) := by
    rcases usualKind with rfl | rfl <;>
    · rw [Division.params, result]
      rfl
  have solved : FatTask.Settled ⟨sectors, filesystem.entryBits, 512, cluster, alignment⟩
      (Division.fatParams ⟨sectors, 512, cluster, alignment, usual, []⟩ geometry filesystem
        cluster alignment area).rootSectorCount area := by
    rw [Params.rootSectorCount_eq kind rfl]
    exact settled
  have fatSectors : area.fatSectors ≤ 0xFFFF := by
    rw [settled.fatSectors_eq, FatTask.tableSectors]
    rcases kind with rfl | rfl <;> simp only [clusterRange, Filesystem.entryBits] at clusters ⊢ <;>
      omega
  have others : filesystem ≠ .exFat ∧ filesystem ≠ .fat32 := by
    rcases kind with rfl | rfl <;> decide
  refine ⟨_, [], outcome, rfl, rfl, rfl, rfl, ?_, solved⟩
  exact valid_of_settled rfl solved List.mem_cons_self clusterPower cluster_le alignmentPower total
    others.1 clusters (by omega) (fun fat32 => absurd fat32 others.2) fun _ => fatSectors

/-- The first data sector of a volume with a fixed root directory and usual sectors, before
any other is tried. -/
def smallData (sectors bits cluster alignment : Nat) : Nat :=
  (33 + 2 * ((sectors / cluster * bits + 4095) / 4096) + alignment - 1) / alignment * alignment +
    alignment

/-- The area of a volume with a fixed root directory and usual sectors: the facts that the
ranges of its clusters follow from. -/
theorem smallArea_facts {sectors bits cluster alignment : Nat} (total : sectors ≤ 2 ^ 32)
    (bitsPos : 0 < bits) (bits_le : bits ≤ 32) (clusterPos : 0 < cluster) (aligned : 0 < alignment)
    (alignment_le : alignment ≤ 2 ^ 20)
    (behind : 2 * cluster ≤ smallData sectors bits cluster alignment)
    (inside : smallData sectors bits cluster alignment ≤ sectors) :
    ∃ area, FatTask.fixedRootArea ⟨sectors, bits, 512, cluster, alignment⟩ = .ok area ∧
      FatTask.Settled ⟨sectors, bits, 512, cluster, alignment⟩ 32 area ∧ area.reserved = 1 ∧
      area.start + area.size ≤ smallData sectors bits cluster alignment := by
  have regular : FatTask.Regular ⟨sectors, bits, 512, cluster, alignment⟩ :=
    FatTask.regular_of_le total bitsPos bits_le (by decide) (by decide) clusterPos aligned
      alignment_le
  have same : FatTask.fixedRootData ⟨sectors, bits, 512, cluster, alignment⟩ 32
      (FatTask.firstSize ⟨sectors, bits, 512, cluster, alignment⟩) =
      smallData sectors bits cluster alignment := by
    simp only [FatTask.fixedRootData, FatTask.fixedRootSize, FatTask.firstSize,
      FatTask.tableSectors, alignUp, smallData]
    congr 4
    omega
  obtain ⟨area, result, settled, reserved, dataLe⟩ := FatTask.fixedRootArea_eq_ok regular
    (show rootDirectorySectors fixedRootEntries 512 = .ok 32 from rfl) (by decide)
    (by rw [same]; exact behind) (by rw [same]; exact inside)
  exact ⟨area, result, settled, reserved, by rw [← same]; exact dataLe⟩

theorem Divided.planned_smallest {sectors : Nat} (low : 128 ≤ sectors) (high : sectors ≤ 2 ^ 14)
    (geometry : Nat × Nat) :
    Division.Plannable ⟨sectors, 512, 16, 16, .fat12, []⟩ geometry := by
  have total : sectors ≤ 2 ^ 32 := by omega
  obtain ⟨area, result, settled, reserved, dataLe⟩ := smallArea_facts total
    (show 0 < 12 by decide) (by decide) (show 0 < 16 by decide) (show 0 < 16 by decide) (by decide)
    (by unfold smallData; omega) (by unfold smallData; omega)
  have counted := settled.clusters_eq
  simp only [FatTask.clustersFrom] at counted
  have range : 1 ≤ area.clusters ∧ area.clusters ≤ 4084 := by
    unfold smallData at dataLe
    omega
  refine Division.planned_small total (.inl rfl) (.inl rfl) (by decide) (by decide) (by decide) ?_
    settled reserved range geometry
  simp only [Division.smallArea, Division.task, result, Checked.ok_bind, range.2, if_true]
  rfl

theorem Divided.planned_small {sectors : Nat} (low : 2 ^ 14 < sectors) (high : sectors ≤ 2 ^ 17)
    (geometry : Nat × Nat) :
    Division.Plannable ⟨sectors, 512, 32, 32, .fat12, []⟩ geometry := by
  have total : sectors ≤ 2 ^ 32 := by omega
  obtain ⟨area, result, settled, reserved, dataLe⟩ := smallArea_facts total
    (show 0 < 12 by decide) (by decide) (show 0 < 32 by decide) (show 0 < 32 by decide) (by decide)
    (by unfold smallData; omega) (by unfold smallData; omega)
  obtain ⟨wide, wideResult, wideSettled, wideReserved, wideLe⟩ := smallArea_facts total
    (show 0 < 16 by decide) (by decide) (show 0 < 32 by decide) (show 0 < 32 by decide) (by decide)
    (by unfold smallData; omega) (by unfold smallData; omega)
  have counted := settled.clusters_eq
  have parts := settled.size_eq
  have front := settled.start_le
  have fats := settled.fatSectors_eq
  have wideCounted := wideSettled.clusters_eq
  simp only [FatTask.clustersFrom, FatTask.tableSectors] at counted front fats wideCounted
  by_cases few : area.clusters ≤ 4084
  · have least : 1 ≤ area.clusters := by
      unfold smallData at dataLe
      omega
    refine Division.planned_small total (.inl rfl) (.inl rfl) (by decide) (by decide) (by decide)
      ?_ settled reserved ⟨least, few⟩ geometry
    simp only [Division.smallArea, Division.task, result, Checked.ok_bind, few, if_true]
    rfl
  · by_cases many : 4087 ≤ wide.clusters
    · refine Division.planned_small total (.inl rfl) (.inr rfl) (by decide) (by decide) (by decide)
        ?_ wideSettled wideReserved ⟨many, by simp only [clusterRange]; omega⟩ geometry
      simp only [Division.smallArea, Division.task, result, wideResult, Checked.ok_bind, few, many,
        if_true, if_false]
      rfl
    · -- Too many clusters for FAT12 and too few for FAT16: the FATs of FAT12 stay the same.
      obtain ⟨trimmed, trimResult, trimSettled, trimReserved, trimClusters⟩ :=
        (FatTask.regular_of_le total (show 0 < 12 by decide) (by decide) (show 0 < 512 by decide)
          (by decide) (show 0 < 32 by decide) (show 0 < 32 by decide)
          (by decide)).trimToFat12_eq_ok rfl area settled (by omega)
          (by simp only [FatTask.tableSectors]; omega)
      refine Division.planned_small total (.inl rfl) (.inl rfl) (by decide) (by decide) (by decide)
        ?_ trimSettled (trimReserved.trans reserved) (by rw [trimClusters]; decide) geometry
      simp only [Division.smallArea, Division.task, result, wideResult, trimResult,
        Checked.ok_bind, few, many, if_false]
      rfl

/-- The cards for which FAT16 is usual. -/
theorem Divided.planned_fat16 {sectors cluster alignment : Nat}
    (way : 2 ^ 17 < sectors ∧ sectors ≤ 2 ^ 19 ∧ cluster = 32 ∧ alignment = 64 ∨
      2 ^ 19 < sectors ∧ sectors ≤ 2 ^ 21 ∧ cluster = 32 ∧ alignment = 128 ∨
      2 ^ 21 < sectors ∧ sectors ≤ 2 ^ 22 ∧ cluster = 64 ∧ alignment = 128)
    (geometry : Nat × Nat) :
    Division.Plannable ⟨sectors, 512, cluster, alignment, .fat16, []⟩ geometry := by
  have total : sectors ≤ 2 ^ 32 := by omega
  obtain ⟨area, result, settled, reserved, dataLe⟩ := smallArea_facts total
    (show 0 < 16 by decide) (by decide) (show 0 < cluster by omega) (show 0 < alignment by omega)
    (by omega)
    (by
      unfold smallData
      rcases way with ⟨_, _, rfl, rfl⟩ | ⟨_, _, rfl, rfl⟩ | ⟨_, _, rfl, rfl⟩ <;> omega)
    (by
      unfold smallData
      rcases way with ⟨_, _, rfl, rfl⟩ | ⟨_, _, rfl, rfl⟩ | ⟨_, _, rfl, rfl⟩ <;> omega)
  have range : 4087 ≤ area.clusters ∧ area.clusters ≤ 65524 := by
    have counted := settled.clusters_eq
    have parts := settled.size_eq
    have front := settled.start_le
    have fats := settled.fatSectors_eq
    have multiple := settled.aligned
    simp only [FatTask.clustersFrom, FatTask.tableSectors] at counted front fats multiple
    unfold smallData at dataLe
    rcases way with ⟨_, _, rfl, rfl⟩ | ⟨_, _, rfl, rfl⟩ | ⟨_, _, rfl, rfl⟩ <;> omega
  have powers : isPowerOfTwo cluster = true ∧ cluster ≤ 128 ∧ isPowerOfTwo alignment = true := by
    rcases way with ⟨_, _, rfl, rfl⟩ | ⟨_, _, rfl, rfl⟩ | ⟨_, _, rfl, rfl⟩ <;> decide
  refine Division.planned_small total (.inr rfl) (.inr rfl) powers.1 powers.2.1 powers.2.2 ?_
    settled reserved range geometry
  simp only [Division.smallArea, Division.task, result, Checked.ok_bind, if_true]
  rfl

end CardFormat
