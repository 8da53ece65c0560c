/-
This file plans the cards that are divided for exFAT. One alignment unit lies in front of
the partition, and the next one in front of the heap; the FAT fills half of it. So nothing
has to be searched: all numbers follow from the capacity and the size of the clusters.
-/

import CardFormat.Proofs.Params.Planned

namespace CardFormat

/-- The regions of a card with so many sectors, for clusters of the given size. -/
def hugeArea (sectors cluster : Nat) : ExFatArea where
  start := 128 * cluster
  length := sectors - 128 * cluster
  fatOffset := 128 * cluster / 2
  fatLength := 128 * cluster / 2
  heapOffset := 128 * cluster
  clusters := (sectors - 2 * (128 * cluster)) / cluster

/-- The division of such a card. -/
def hugeDivision (sectors cluster : Nat) : Division :=
  ⟨sectors, 512, cluster, 128 * cluster, .exFat, []⟩

/-- The parameters of such a card. -/
def hugeParams (sectors cluster : Nat) (geometry : Nat × Nat) : Params :=
  ⟨sectors, 512, cluster, 128 * cluster, .exFat, geometry.1, geometry.2,
    .exFat (hugeArea sectors cluster)⟩

section

variable {sectors cluster : Nat}

theorem hugeParams_eq (positive : 0 < cluster) (room : 128 * cluster ≤ sectors)
    (geometry : Nat × Nat) :
    (hugeDivision sectors cluster).params geometry =
      .ok (hugeParams sectors cluster geometry, []) := by
  rw [Division.params, hugeDivision]
  simp only [Division.exFatArea]
  rw [Checked.subtract_of_le room, Checked.ok_bind, Checked.divide_of_pos positive, Checked.ok_bind]
  rfl

/-- Many clusters fit in the heap, and not too many for its FAT. -/
theorem hugeArea_clusters (power : cluster ∈ [256, 512, 1024]) (low : 2 ^ 18 * cluster < sectors)
    (high : sectors ≤ 4096 * (cluster * cluster)) :
    2 ^ 17 ≤ (hugeArea sectors cluster).clusters ∧
      (hugeArea sectors cluster).clusters ≤ 2 ^ 22 ∧
      (hugeArea sectors cluster).clusters + 2 ≤ (hugeArea sectors cluster).fatLength * 512 / 4 := by
  simp only [List.mem_cons, List.not_mem_nil, or_false] at power
  simp only [hugeArea]
  rcases power with rfl | rfl | rfl <;> omega

theorem hugeArea_heapEnd_le (room : 2 * (128 * cluster) ≤ sectors) :
    (hugeArea sectors cluster).heapOffset + (hugeArea sectors cluster).clusters * cluster ≤
      (hugeArea sectors cluster).length := by
  have product : (sectors - 2 * (128 * cluster)) / cluster * cluster ≤
      sectors - 2 * (128 * cluster) := Nat.div_mul_le_self _ _
  simp only [hugeArea]
  omega

/-- The parameters pass the check. -/
theorem hugeParams_valid (power : cluster ∈ [256, 512, 1024]) (low : 2 ^ 18 * cluster < sectors)
    (high : sectors ≤ 4096 * (cluster * cluster)) (geometry : Nat × Nat) :
    (hugeParams sectors cluster geometry).Valid := by
  obtain ⟨many, few, entries⟩ := hugeArea_clusters power low high
  have heapEnd := hugeArea_heapEnd_le (show 2 * (128 * cluster) ≤ sectors by omega)
  have sizes : 256 ≤ cluster ∧ cluster ≤ 1024 ∧ isPowerOfTwo cluster = true ∧
      isPowerOfTwo (128 * cluster) = true := by
    simp only [List.mem_cons, List.not_mem_nil, or_false] at power
    rcases power with rfl | rfl | rfl <;> decide
  obtain ⟨least, largest, clusterPower, alignmentPower⟩ := sizes
  have most : sectors ≤ 2 ^ 32 := by
    have square := Nat.mul_le_mul largest largest
    omega
  have length : (hugeArea sectors cluster).length ≤ sectors := Nat.sub_le _ _
  refine ⟨show isPowerOfTwo 512 = true by decide, show 512 ≤ 512 by decide,
    show 512 ≤ 4096 by decide, clusterPower, alignmentPower, ?_⟩
  exact {
    isExFat := rfl
    clusters_ge := Nat.le_trans (by decide) many
    clusters_le := Nat.le_trans few (by decide)
    fatOffset_ge := by simp only [hugeArea]; omega
    fatEnd_fits := by simp only [hugeArea]; omega
    fatEnd_le := by simp only [hugeArea]; omega
    table_fits := by simp only [hugeArea, hugeParams]; omega
    entries_le := entries
    heapEnd_fits := Nat.lt_of_le_of_lt heapEnd (by omega)
    heapEnd_le := heapEnd
    end_fits := by simp only [hugeArea]; omega
    end_le := by simp only [hugeArea, hugeParams]; omega
    heapOffset_le := by simp only [hugeArea]; omega
    clusterBytes_le := by simp only [Params.clusterBytes, hugeParams]; omega }

theorem Divided.planned_huge (power : cluster ∈ [256, 512, 1024]) (low : 2 ^ 18 * cluster < sectors)
    (high : sectors ≤ 4096 * (cluster * cluster)) (geometry : Nat × Nat) :
    (hugeDivision sectors cluster).Plannable geometry := by
  obtain ⟨many, few, -⟩ := hugeArea_clusters power low high
  have positive : 0 < cluster := by
    refine Nat.pos_of_ne_zero ?_
    rintro rfl
    exact absurd power (by decide)
  exact ⟨_, [], hugeParams_eq positive (by omega) geometry, rfl, rfl, rfl, rfl,
    hugeParams_valid power low high geometry, ⟨rfl, power, rfl, rfl, many, few⟩⟩

end

end CardFormat
