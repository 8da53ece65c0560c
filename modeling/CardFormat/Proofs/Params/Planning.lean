/-
This file proves which capacities are accepted. Every capacity from 128 sectors to 2 TiB is,
whatever filesystem is asked for, and no step on the way faults or is refused; all others
are refused with the reason that fits. The parameters describe the whole card but for less
than a logical sector, have a number of clusters that their filesystem allows, and put the
data on an alignment boundary with all clusters inside.
-/

import CardFormat.Proofs.Params.ExFatVolumes
import CardFormat.Proofs.Params.Fat32Volumes
import CardFormat.Proofs.Params.Intervals
import CardFormat.Proofs.Params.SmallVolumes

namespace CardFormat

/-- However a card is divided, there are parameters for it. -/
theorem Divided.planned {sectors : Nat} {division : Division} (divided : Divided sectors division)
    (geometry : Nat × Nat) : division.Plannable geometry := by
  cases divided with
  | smallest low high => exact planned_smallest low high geometry
  | small low high => exact planned_small low high geometry
  | quarterGibibyte low high => exact planned_fat16 (.inl ⟨low, high, rfl, rfl⟩) geometry
  | oneGibibyte low high => exact planned_fat16 (.inr (.inl ⟨low, high, rfl, rfl⟩)) geometry
  | twoGibibytes low high => exact planned_fat16 (.inr (.inr ⟨low, high, rfl, rfl⟩)) geometry
  | large low high =>
    refine Division.planned_fat32 rfl ?_ geometry
    exact .large low high (show 64 ∈ [32, 64] by decide)
  | limited low high unit =>
    refine Division.planned_fat32 rfl ?_ geometry
    exact .limited low high unit
  | @enlarged ratio power low high =>
    have way : Fat32Way ⟨sectors / ratio, 32, 512 * ratio, 128, 16384⟩ := by
      simp only [List.mem_cons, List.not_mem_nil, or_false] at power
      rcases power with rfl | rfl | rfl
      · exact .enlarged (by omega) (by omega) (by decide)
      · exact .enlarged (by omega) (by omega) (by decide)
      · exact .enlarged (by omega) (by omega) (by decide)
    refine Division.planned_fat32 rfl ?_ geometry
    exact way
  | huge power low high => exact planned_huge power low high geometry

/-- A division counts all of the card but for less than a logical sector. -/
theorem Divided.capacity {sectors : Nat} {division : Division}
    (divided : Divided sectors division) :
    division.totalSectors * division.bytesPerSector ≤ sectors * sectorBytes ∧
      sectors * sectorBytes <
        division.totalSectors * division.bytesPerSector + division.bytesPerSector := by
  unfold sectorBytes
  cases divided with
  | enlarged power low high =>
    simp only [List.mem_cons, List.not_mem_nil, or_false] at power
    rcases power with rfl | rfl | rfl <;> simp only <;> omega
  | _ => simp only; omega

/-- The geometry of a card has heads and tracks of the sizes that addresses allow. -/
theorem geometryFor_range (sectors : Nat) :
    1 ≤ (geometryFor sectors).1 ∧ (geometryFor sectors).1 ≤ 255 ∧
      1 ≤ (geometryFor sectors).2 ∧ (geometryFor sectors).2 ≤ 63 := by
  unfold geometryFor
  split
  · rename_i row found
    exact (by decide : ∀ row ∈ geometries, 1 ≤ row.2.1 ∧ row.2.1 ≤ 255 ∧ 1 ≤ row.2.2 ∧ row.2.2 ≤ 63)
      row (List.mem_of_find?_eq_some found)
  · decide

/-! ### Accepted capacities -/

/-- What the parameters for a card are known to satisfy. -/
structure Params.PlannedFor (params : Params) (sectors : Nat) : Prop where
  low : leastSectors ≤ sectors
  high : sectors ≤ 2 ^ 32
  capacity_le : params.totalSectors * params.bytesPerSector ≤ sectors * sectorBytes
  capacity_gt : sectors * sectorBytes <
    params.totalSectors * params.bytesPerSector + params.bytesPerSector
  heads : 1 ≤ params.heads ∧ params.heads ≤ 255
  track : 1 ≤ params.sectorsPerTrack ∧ params.sectorsPerTrack ≤ 63
  valid : params.Valid
  layout : match params.layout with
    | .fat area => params.fatTask.Settled params.rootSectorCount area
    | .exFat area => PlannedExFat params area

/-- An accepted capacity is divided, and what is planned are the parameters of the division. -/
theorem plan_divided {sectors : Nat} (low : leastSectors ≤ sectors) (high : sectors ≤ 2 ^ 32)
    (forceFat32 bigClusters : Bool) :
    ∃ division params warnings,
      plan sectors forceFat32 bigClusters = .ok ⟨division.warnings ++ warnings, .ok params⟩ ∧
      Divided sectors division ∧
      division.params (geometryFor sectors) = .ok (params, warnings) ∧
      division.Planned (geometryFor sectors) params := by
  obtain ⟨division, chosen, divided⟩ :=
    Division.forCapacity_eq_ok low high forceFat32 bigClusters
  obtain ⟨params, warnings, result, planned⟩ := divided.planned (geometryFor sectors)
  refine ⟨division, params, warnings, ?_, divided, result, planned⟩
  simp only [plan, chosen, result, Attempt.outcome_ok, Checked.ok_bind,
    validate_eq_ok_iff.2 planned.valid]
  rfl

theorem plan_of_accepted {sectors : Nat} (low : leastSectors ≤ sectors) (high : sectors ≤ 2 ^ 32)
    (forceFat32 bigClusters : Bool) :
    ∃ params warnings, plan sectors forceFat32 bigClusters = .ok ⟨warnings, .ok params⟩ ∧
      params.PlannedFor sectors := by
  obtain ⟨division, params, warnings, result, divided, -, planned⟩ :=
    plan_divided low high forceFat32 bigClusters
  have capacity := divided.capacity
  rw [← planned.total_eq, ← planned.sector_eq] at capacity
  obtain ⟨heads, heads_le, track, track_le⟩ := geometryFor_range sectors
  refine ⟨params, _, result, low, high, capacity.1, capacity.2, ?_, ?_, planned.valid,
    planned.layout⟩
  · rw [planned.heads_eq]
    exact ⟨heads, heads_le⟩
  · rw [planned.track_eq]
    exact ⟨track, track_le⟩

theorem plan_of_small {sectors : Nat} (positive : 0 < sectors) (small : sectors < leastSectors)
    (forceFat32 bigClusters : Bool) :
    plan sectors forceFat32 bigClusters =
      .ok ⟨[], .error (.deviceTooSmall sectors leastSectors)⟩ := by
  rw [plan, Division.forCapacity, if_neg (by omega), if_pos small]
  rfl

theorem plan_of_none (forceFat32 bigClusters : Bool) :
    plan 0 forceFat32 bigClusters = .ok ⟨[], .error (.infeasible .noCapacity)⟩ := rfl

theorem plan_of_large {sectors : Nat} (large : 2 ^ 32 < sectors) (forceFat32 bigClusters : Bool) :
    plan sectors forceFat32 bigClusters =
      .ok ⟨[], .error (.infeasible (.capacityTooLarge sectors))⟩ := by
  have least : ¬sectors < leastSectors := by
    unfold leastSectors
    omega
  rw [plan, Division.forCapacity, if_neg (by omega), if_neg least, profileFor_eq_none large]
  rfl

/-- Planning never faults. -/
theorem plan_eq_ok (sectors : Nat) (forceFat32 bigClusters : Bool) :
    ∃ result, plan sectors forceFat32 bigClusters = .ok result := by
  by_cases low : leastSectors ≤ sectors
  · by_cases high : sectors ≤ 2 ^ 32
    · obtain ⟨params, warnings, result, -⟩ := plan_of_accepted low high forceFat32 bigClusters
      exact ⟨_, result⟩
    · exact ⟨_, plan_of_large (Nat.lt_of_not_le high) forceFat32 bigClusters⟩
  · rcases Nat.eq_zero_or_pos sectors with rfl | positive
    · exact ⟨_, plan_of_none forceFat32 bigClusters⟩
    · exact ⟨_, plan_of_small positive (Nat.lt_of_not_le low) forceFat32 bigClusters⟩

/-- Cards above the limit are not planned. -/
theorem capacity_le_of_plan {sectors : Nat} {forceFat32 bigClusters : Bool} {params : Params}
    {warnings : List Warning}
    (planned : plan sectors forceFat32 bigClusters = .ok ⟨warnings, .ok params⟩) :
    sectors ≤ 2 ^ 32 := by
  by_contra large
  rw [plan_of_large (Nat.lt_of_not_le large)] at planned
  cases planned

/-- Parameters come only from accepted capacities. -/
theorem plannedFor_of_plan {sectors : Nat} {forceFat32 bigClusters : Bool} {params : Params}
    {warnings : List Warning}
    (planned : plan sectors forceFat32 bigClusters = .ok ⟨warnings, .ok params⟩) :
    params.PlannedFor sectors := by
  by_cases low : leastSectors ≤ sectors
  · by_cases high : sectors ≤ 2 ^ 32
    · obtain ⟨found, others, result, facts⟩ := plan_of_accepted low high forceFat32 bigClusters
      rw [planned] at result
      cases result
      exact facts
    · rw [plan_of_large (by omega)] at planned
      cases planned
  · rcases Nat.eq_zero_or_pos sectors with rfl | positive
    · rw [plan_of_none] at planned
      cases planned
    · rw [plan_of_small positive (by omega)] at planned
      cases planned

/-- Parameters come only from divisions. -/
theorem divided_of_plan {sectors : Nat} {forceFat32 bigClusters : Bool} {params : Params}
    {warnings : List Warning}
    (planned : plan sectors forceFat32 bigClusters = .ok ⟨warnings, .ok params⟩) :
    ∃ division others, Divided sectors division ∧
      division.params (geometryFor sectors) = .ok (params, others) ∧
      division.Planned (geometryFor sectors) params := by
  have facts := plannedFor_of_plan planned
  obtain ⟨division, found, others, result, divided, described, solved⟩ :=
    plan_divided facts.low facts.high forceFat32 bigClusters
  rw [planned] at result
  cases result
  exact ⟨division, others, divided, described, solved⟩

/-! ### Every capacity -/

/-- The first sector of the data. -/
def Params.firstDataSector (params : Params) : Nat :=
  match params.layout with
  | .fat area => area.start + area.size
  | .exFat area => area.start + area.heapOffset

/-- The parameters suit a card with so many device sectors. -/
structure Params.Suits (params : Params) (sectors : Nat) : Prop where
  capacity_le : params.totalSectors * params.bytesPerSector ≤ sectors * sectorBytes
  capacity_gt : sectors * sectorBytes <
    params.totalSectors * params.bytesPerSector + params.bytesPerSector
  clusters_ge : (clusterRange params.filesystem).1 ≤ params.clusterCount
  clusters_le : params.clusterCount ≤ (clusterRange params.filesystem).2
  aligned : params.alignment ∣ params.firstDataSector
  inside : params.firstDataSector + params.clusterCount * params.sectorsPerCluster ≤
    params.totalSectors
  valid : params.Valid

theorem Params.PlannedFor.suits {params : Params} {sectors : Nat}
    (planned : params.PlannedFor sectors) : params.Suits sectors := by
  have valid := planned.valid.layout
  have solved := planned.layout
  obtain ⟨total, bytes, cluster, alignment, filesystem, heads, track, layout⟩ := params
  refine ⟨planned.capacity_le, planned.capacity_gt, ?_, ?_, ?_, ?_, planned.valid⟩
  · cases layout with
    | fat area => exact valid.clusters_ge
    | exFat area =>
      rw [show filesystem = .exFat from valid.isExFat]
      exact valid.clusters_ge
  · cases layout with
    | fat area => exact valid.clusters_le
    | exFat area =>
      rw [show filesystem = .exFat from valid.isExFat]
      exact valid.clusters_le
  · cases layout with
    | fat area => exact solved.aligned
    | exFat area =>
      have regions := solved.area_eq
      simp only at regions
      simp only [firstDataSector, regions]
      exact Nat.dvd_add (Nat.dvd_refl _) (Nat.dvd_refl _)
  · cases layout with
    | fat area => exact valid.end_le
    | exFat area =>
      have heap : area.heapOffset + area.clusters * cluster ≤ area.length := valid.heapEnd_le
      have volume : area.start + area.length ≤ total := valid.end_le
      simp only [firstDataSector, clusterCount]
      omega

/-- Planning never faults. It succeeds exactly for cards from 128 sectors to 2 TiB,
whatever is asked for; smaller cards are refused as too small, and no capacity or too much
of it as infeasible. What it finds suits the card. -/
theorem plan_outcome (sectors : Nat) (forceFat32 bigClusters : Bool) :
    ∃ result, plan sectors forceFat32 bigClusters = .ok result ∧
      ((∃ params, result.outcome = .ok params) ↔ leastSectors ≤ sectors ∧ sectors ≤ 2 ^ 32) ∧
      (0 < sectors ∧ sectors < leastSectors →
        result.outcome = .error (.deviceTooSmall sectors leastSectors)) ∧
      (sectors = 0 ∨ 2 ^ 32 < sectors → ∃ reason, result.outcome = .error (.infeasible reason)) ∧
      ∀ params, result.outcome = .ok params → params.Suits sectors := by
  have least : leastSectors = 128 := rfl
  rcases Nat.eq_zero_or_pos sectors with rfl | positive
  · refine ⟨_, plan_of_none forceFat32 bigClusters, ?_, ?_, ?_, ?_⟩
    · simp [least]
    · rintro ⟨impossible, -⟩
      exact absurd impossible (Nat.lt_irrefl 0)
    · intro _
      exact ⟨_, rfl⟩
    · intro params impossible
      cases impossible
  · by_cases low : leastSectors ≤ sectors
    · by_cases high : sectors ≤ 2 ^ 32
      · obtain ⟨params, warnings, result, planned⟩ :=
          plan_of_accepted low high forceFat32 bigClusters
        refine ⟨_, result, ⟨fun _ => ⟨low, high⟩, fun _ => ⟨params, rfl⟩⟩, by omega, by omega, ?_⟩
        intro others equal
        cases equal
        exact planned.suits
      · refine ⟨_, plan_of_large (by omega) forceFat32 bigClusters, ?_, by omega, ?_, ?_⟩
        · simp only [reduceCtorEq, exists_false, false_iff]
          omega
        · intro _
          exact ⟨_, rfl⟩
        · intro params impossible
          cases impossible
    · refine ⟨_, plan_of_small positive (by omega) forceFat32 bigClusters, ?_, ?_, by omega, ?_⟩
      · simp only [reduceCtorEq, exists_false, false_iff]
        omega
      · intro _
        rfl
      · intro params impossible
        cases impossible

set_option maxRecDepth 20000 in
/-- The plan for a card of half a mebibyte. -/
theorem plan_halfMebibyte : plan 1024 false false =
    .ok ⟨[], .ok ⟨1024, 512, 16, 16, .fat12, 2, 16, .fat ⟨1, 1, 35, 29, 60⟩⟩⟩ := by
  have regions : FatTask.fixedRootArea ⟨1024, 12, 512, 16, 16⟩ = .ok ⟨1, 1, 35, 29, 60⟩ := by
    cbv
  have result : Division.params ⟨1024, 512, 16, 16, .fat12, []⟩ (2, 16) =
      .ok (⟨1024, 512, 16, 16, .fat12, 2, 16, .fat ⟨1, 1, 35, 29, 60⟩⟩, []) := by
    rw [Division.params, Division.smallArea, if_neg (by decide), Division.task, regions]
    rfl
  rw [plan, show Division.forCapacity 1024 false false =
    .ok ⟨1024, 512, 16, 16, .fat12, []⟩ from rfl]
  show (Attempt.outcome (Division.params ⟨1024, 512, 16, 16, .fat12, []⟩ (2, 16)) >>= _) = _
  rw [result]
  rfl

/-- The plan for the smallest card that is given an exFAT volume. -/
theorem plan_aboveThirtyTwoGibibytes : plan 67108865 false false =
    .ok ⟨[], .ok ⟨67108865, 512, 256, 32768, .exFat, 255, 63,
      .exFat ⟨32768, 67076097, 16384, 16384, 32768, 261888⟩⟩⟩ := rfl

end CardFormat
