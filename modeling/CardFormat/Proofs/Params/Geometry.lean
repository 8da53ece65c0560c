/-
This file compares the geometry of a card with its capacity. A geometry is chosen by the
whole MiB of a card, and most rows of the table are for as many MiB as 1024 cylinders have. A
card with a few sectors more counts as no larger, and so outgrows the geometry it is given.
-/

import CardFormat.Partition.Entry
import CardFormat.Params.Plan
import CardFormat.Proofs.Partition.Address

namespace CardFormat

/-- The MiB that 1024 cylinders have, for the geometries that are given to just so many. -/
def filledMebibytes : List Nat := [128, 256, 504, 1008, 2016, 4032]

/-- The card has some sectors more than its geometry has, but no whole MiB more. -/
def OutgrowsGeometry (sectors : Nat) : Prop :=
  sectors / 2048 ∈ filledMebibytes ∧ sectors % 2048 ≠ 0

instance (sectors : Nat) : Decidable (OutgrowsGeometry sectors) := by
  unfold OutgrowsGeometry
  infer_instance

/-- The blocks that the geometry of a card reaches. -/
def geometryReach (sectors : Nat) : Nat :=
  DiskAddress.reach (geometryFor sectors).1 (geometryFor sectors).2

/-- Every row of the table reaches as far as it is given, and those that reach no further are
the filled ones. -/
theorem geometries_reach : ∀ row ∈ geometries,
    (row.1 ∈ filledMebibytes ∧ DiskAddress.reach row.2.1 row.2.2 = row.1 * 2048) ∨
      (row.1 + 1) * 2048 ≤ DiskAddress.reach row.2.1 row.2.2 := by
  decide

/-- Up to the last block that any geometry reaches, a geometry falls short only of cards that
outgrow it. -/
theorem le_geometryReach {sectors : Nat} (most : sectors ≤ addressableBlocks)
    (fits : ¬OutgrowsGeometry sectors) : sectors ≤ geometryReach sectors := by
  rw [geometryReach, geometryFor]
  cases found : geometries.find? fun row => sectors / 2048 ≤ row.1 with
  | none => exact most
  | some row =>
    have whole : sectors / 2048 ≤ row.1 := by simpa using List.find?_some found
    have remainder := Nat.div_add_mod sectors 2048
    have short := Nat.mod_lt sectors (show 0 < 2048 by decide)
    simp only
    rcases geometries_reach row (List.mem_of_find?_eq_some found) with ⟨filled, exact⟩ | further
    · rw [exact]
      by_cases same : sectors / 2048 = row.1
      · have even : sectors % 2048 = 0 :=
          Decidable.byContradiction fun odd => fits ⟨same ▸ filled, odd⟩
        omega
      · omega
    · omega

/-- Sectors beyond the last whole MiB do not change the geometry. -/
theorem geometryReach_wholeMebibytes (sectors : Nat) :
    geometryReach (sectors / 2048 * 2048) = geometryReach sectors := by
  unfold geometryReach geometryFor
  rw [Nat.mul_div_cancel _ (by decide)]

/-- What a geometry falls short of is less than a MiB. -/
theorem le_geometryReach_add {sectors : Nat} (most : sectors ≤ addressableBlocks) :
    sectors ≤ geometryReach sectors + 2047 := by
  have whole : ¬OutgrowsGeometry (sectors / 2048 * 2048) :=
    fun outgrows => outgrows.2 (Nat.mul_mod_left _ _)
  have reached := le_geometryReach (by omega) whole
  rw [geometryReach_wholeMebibytes] at reached
  omega

/-- A card that outgrows its geometry has blocks that the geometry does not reach. -/
theorem geometryReach_lt {sectors : Nat} (outgrows : OutgrowsGeometry sectors) :
    geometryReach sectors < sectors := by
  obtain ⟨filled, odd⟩ := outgrows
  have given : geometryReach (sectors / 2048 * 2048) = sectors / 2048 * 2048 :=
    (by decide : ∀ mebibytes ∈ filledMebibytes,
      geometryReach (mebibytes * 2048) = mebibytes * 2048) _ filled
  rw [geometryReach_wholeMebibytes] at given
  omega

end CardFormat
