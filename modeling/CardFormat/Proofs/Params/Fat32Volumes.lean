/-
This file plans the cards that are divided for FAT32, as usual or in place of exFAT. Few
tasks arise: the usual clusters may be halved once, and the erase block of a large card
twice. Each of these tasks has a solution.
-/

import CardFormat.Proofs.Params.Areas
import CardFormat.Proofs.Params.Planned

namespace CardFormat

/-- The tasks that are solved for FAT32: with the usual clusters or half of them, with
limited clusters and the usual erase block or half or a quarter of it, and with enlarged
sectors. -/
inductive Fat32Way : FatTask → Prop where
  | large {total cluster : Nat} (low : 2 ^ 22 < total) (high : total ≤ 2 ^ 26)
    (power : cluster ∈ [32, 64]) : Fat32Way ⟨total, 32, 512, cluster, 8192⟩
  | limited {total alignment : Nat} (low : 2 ^ 26 < total) (high : total ≤ 2 ^ 32)
    (unit : alignment ∈ [32768, 65536, 131072]) : Fat32Way ⟨total, 32, 512, 128, alignment⟩
  | enlarged {total sector : Nat} (low : 2 ^ 25 ≤ total) (high : total ≤ 2 ^ 31)
    (power : sector ∈ [1024, 2048, 4096]) : Fat32Way ⟨total, 32, sector, 128, 16384⟩

/-- When the first data sector that is tried leaves enough clusters, and the device has not
too many, so it is with the solution. -/
theorem FatTask.Regular.fat32Area_counted {task : FatTask} {most : Nat} (regular : task.Regular)
    (wide : 8 ≤ task.alignment)
    (behind : 2 * task.sectorsPerCluster ≤ task.fat32Data task.firstSize)
    (inside : task.fat32Data task.firstSize ≤ task.totalSectors)
    (close : task.firstSize < task.neededFrom (task.fat32Data task.firstSize) + settlingPasses)
    {enough : Prop} (counts : enough → 65525 ≤ task.clustersFrom (task.fat32Data task.firstSize))
    (fewer : task.totalSectors / task.sectorsPerCluster ≤ most) :
    ∃ area, task.fat32Area = .ok area ∧ task.SettledFat32 area ∧
      (enough → 65525 ≤ area.clusters) ∧ area.clusters ≤ most := by
  obtain ⟨area, result, settled, dataLe⟩ := fat32Area_eq_ok regular wide behind inside close
  refine ⟨area, result, settled, fun holds => Nat.le_trans (counts holds) ?_, ?_⟩
  · rw [settled.clusters_eq]
    exact clustersFrom_antitone dataLe
  · rw [settled.clusters_eq]
    exact Nat.le_trans (clustersFrom_le _) fewer

/-- Each of them has a solution, with clusters in the range of FAT32 unless they are the
larger of the usual ones. -/
theorem Fat32Way.fat32Area {task : FatTask} (way : Fat32Way task) :
    ∃ area, task.fat32Area = .ok area ∧ task.SettledFat32 area ∧
      (task.sectorsPerCluster ≠ 64 → 65525 ≤ area.clusters) ∧ area.clusters ≤ 0x0FFFFFF6 := by
  cases way with
  | large low high power =>
    simp only [List.mem_cons, List.not_mem_nil, or_false] at power
    rcases power with rfl | rfl <;>
      refine (FatTask.regular_of_le (by omega) (by decide) (by decide) (by decide) (by decide)
        (by decide) (by decide) (by decide)).fat32Area_counted ?_ ?_ ?_ ?_ ?_ ?_ <;>
      simp only [FatTask.fat32Data, FatTask.firstSize, FatTask.neededFrom, FatTask.tableSectors,
        FatTask.clustersFrom, alignUp, fat32LeastReserved, settlingPasses] <;> omega
  | limited low high unit =>
    simp only [List.mem_cons, List.not_mem_nil, or_false] at unit
    rcases unit with rfl | rfl | rfl <;>
      refine (FatTask.regular_of_le (by omega) (by decide) (by decide) (by decide) (by decide)
        (by decide) (by decide) (by decide)).fat32Area_counted ?_ ?_ ?_ ?_ ?_ ?_ <;>
      simp only [FatTask.fat32Data, FatTask.firstSize, FatTask.neededFrom, FatTask.tableSectors,
        FatTask.clustersFrom, alignUp, fat32LeastReserved, settlingPasses] <;> omega
  | enlarged low high power =>
    simp only [List.mem_cons, List.not_mem_nil, or_false] at power
    rcases power with rfl | rfl | rfl <;>
      refine (FatTask.regular_of_le (by omega) (by decide) (by decide) (by decide) (by decide)
        (by decide) (by decide) (by decide)).fat32Area_counted ?_ ?_ ?_ ?_ ?_ ?_ <;>
      simp only [FatTask.fat32Data, FatTask.firstSize, FatTask.neededFrom, FatTask.tableSectors,
        FatTask.clustersFrom, alignUp, fat32LeastReserved, settlingPasses] <;> omega

/-- A solution with a number of clusters that FAT32 allows. -/
structure Fat32Found (total sector : Nat) (task : FatTask) (area : FatArea) : Prop where
  way : Fat32Way task
  settled : task.SettledFat32 area
  clusters_ge : 65525 ≤ area.clusters
  clusters_le : area.clusters ≤ 0x0FFFFFF6
  total_eq : task.totalSectors = total
  sector_eq : task.bytesPerSector = sector

/-- The usual clusters are halved once at most. -/
theorem Fat32Way.enoughClusters {task : FatTask} (way : Fat32Way task) :
    ∃ solved area, task.enoughClusters = .ok (solved, area) ∧
      Fat32Found task.totalSectors task.bytesPerSector solved area := by
  obtain ⟨area, result, settled, counts, fewer⟩ := way.fat32Area
  by_cases enough : 65525 ≤ area.clusters
  · exact ⟨task, area, FatTask.enoughClusters_of_enough result enough,
      ⟨way, settled, enough, fewer, rfl, rfl⟩⟩
  · have usual : task.sectorsPerCluster = 64 :=
      Decidable.not_not.1 fun other => enough (counts other)
    rw [FatTask.enoughClusters_of_few result (by omega) (by omega), usual]
    cases way with
    | large low high power =>
      have half : Fat32Way ⟨_, 32, 512, 32, 8192⟩ := .large low high (by decide)
      obtain ⟨next, nextResult, nextSettled, nextCounts, nextFewer⟩ := half.fat32Area
      have nextEnough := nextCounts (show 32 ≠ 64 by decide)
      exact ⟨_, next, FatTask.enoughClusters_of_enough nextResult nextEnough,
        ⟨half, nextSettled, nextEnough, nextFewer, rfl, rfl⟩⟩
    | limited low high unit => cases usual
    | enlarged low high power => cases usual

/-- The erase block is halved until the reserved area fits; it stays that of a way. -/
theorem Fat32Found.fittingReserved {total sector : Nat} {task : FatTask} {area : FatArea}
    (found : Fat32Found total sector task area) :
    ∃ solved fitting, task.fittingReserved area = .ok (solved, fitting) ∧
      Fat32Found total sector solved fitting ∧ fitting.reserved ≤ 0xFFFF := by
  induction bound : task.alignment using Nat.strongRecOn generalizing task area with
  | ind alignment inductionHypothesis =>
    by_cases fits : area.reserved ≤ 0xFFFF
    · exact ⟨task, area, FatTask.fittingReserved_of_fits fits, found, fits⟩
    · have excess := found.settled.reserved_le.resolve_left fits
      have way := found.way
      simp only [fat32LeastReserved] at excess
      cases way with
      | large low high power => simp only at excess; omega
      | enlarged low high power => simp only at excess; omega
      | @limited _ block low high unit =>
        simp only at excess bound
        subst bound
        simp only [List.mem_cons, List.not_mem_nil, or_false] at unit
        have half : block / 2 ∈ [32768, 65536, 131072] := by
          rcases unit with rfl | rfl | rfl
          · omega
          · decide
          · decide
        have smaller : Fat32Way ⟨_, 32, 512, 128, block / 2⟩ := .limited low high half
        obtain ⟨next, result, settled, counts, fewer⟩ := smaller.fat32Area
        rw [FatTask.fittingReserved_of_excess (by omega) (by simp only; omega) result]
        exact inductionHypothesis (block / 2) (by omega)
          ⟨smaller, settled, counts (show 128 ≠ 64 by decide), fewer, found.total_eq,
            found.sector_eq⟩ rfl

theorem Division.fat32Area_eq_ok {division : Division} (way : Fat32Way (division.task 32)) :
    ∃ task area, division.fat32Area = .ok (task, area) ∧
      Fat32Found division.totalSectors division.bytesPerSector task area ∧
      area.reserved ≤ 0xFFFF := by
  obtain ⟨enough, first, result, found⟩ := way.enoughClusters
  obtain ⟨task, area, fitting, final⟩ := found.fittingReserved
  refine ⟨task, area, ?_, final⟩
  rw [Division.fat32Area, result, Checked.ok_bind]
  exact fitting

/-- FAT32 has its root directory in a cluster. -/
theorem Params.rootSectorCount_fat32 {params : Params} (kind : params.filesystem = .fat32)
    (sector : 0 < params.bytesPerSector) : params.rootSectorCount = 0 := by
  rw [rootSectorCount, rootEntries, kind]
  simp only [Nat.zero_mul, Nat.zero_add]
  exact Nat.div_eq_of_lt (Nat.sub_lt sector (by decide))

theorem Division.planned_fat32 {division : Division} (kind : division.filesystem = .fat32)
    (way : Fat32Way (division.task 32)) (geometry : Nat × Nat) : division.Plannable geometry := by
  obtain ⟨⟨total, bits, sector, cluster, alignment⟩, area, result, found, reserved⟩ :=
    division.fat32Area_eq_ok way
  obtain ⟨solvedWay, settled, clustersGe, clustersLe, totalEq, sectorEq⟩ := found
  simp only at totalEq sectorEq
  subst totalEq sectorEq
  have facts : bits = 32 ∧ division.bytesPerSector ∈ [512, 1024, 2048, 4096] ∧
      isPowerOfTwo cluster = true ∧ cluster ≤ 128 ∧ isPowerOfTwo alignment = true ∧
      division.totalSectors ≤ 2 ^ 32 := by
    generalize division.totalSectors = total at solvedWay
    generalize division.bytesPerSector = sector at solvedWay
    cases solvedWay with
    | large low high power =>
      simp only [List.mem_cons, List.not_mem_nil, or_false] at power
      rcases power with rfl | rfl <;> exact ⟨rfl, by decide, rfl, by decide, rfl, by omega⟩
    | limited low high unit =>
      simp only [List.mem_cons, List.not_mem_nil, or_false] at unit
      rcases unit with rfl | rfl | rfl <;> exact ⟨rfl, by decide, rfl, by decide, rfl, high⟩
    | enlarged low high power =>
      exact ⟨rfl, List.mem_cons_of_mem _ power, rfl, by decide, rfl, by omega⟩
  obtain ⟨rfl, sectorMember, clusterPower, clusterLe, alignmentPower, totalLe⟩ := facts
  have least : 512 ≤ division.bytesPerSector := by
    simp only [List.mem_cons, List.not_mem_nil, or_false] at sectorMember
    omega
  have solved : FatTask.Settled
      ⟨division.totalSectors, 32, division.bytesPerSector, cluster, alignment⟩
      (division.fatParams geometry .fat32 cluster alignment area).rootSectorCount area := by
    rw [Params.rootSectorCount_fat32 rfl (show 0 < division.bytesPerSector by omega)]
    exact settled.toSettled
  refine ⟨division.fatParams geometry .fat32 cluster alignment area,
    division.alignmentWarning alignment, ?_, rfl, rfl, rfl, rfl, ?_, solved⟩
  · rw [Division.params, kind, result]
    rfl
  · exact valid_of_settled rfl solved sectorMember clusterPower clusterLe alignmentPower totalLe
      (show Filesystem.fat32 ≠ .exFat by decide) ⟨clustersGe, clustersLe⟩ reserved
      (fun _ => settled.reserved_ge) fun other => absurd rfl other

end CardFormat
