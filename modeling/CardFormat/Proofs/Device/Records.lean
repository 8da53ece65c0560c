/-
This file says what it means that writes lie one behind the other: each begins where those
before it end, and at the start of a block, so that all but the last are whole blocks. A
write from the next block on goes with them.
-/

import CardFormat.Device.Memory
import CardFormat.Proofs.Writer.Count

namespace CardFormat

/-- The writes lie one behind the other from the start of the device to an offset. Each
begins at a block, and all but the last are whole blocks long. -/
structure Tiling (records : List WriteRecord) (stop : Nat) : Prop where
  start_eq : ∀ earlier record later, records = earlier ++ record :: later →
    record.start * sectorBytes = (earlier.map WriteRecord.length).sum
  length_pos : ∀ record ∈ records, 0 < record.length
  stop_eq : (records.map WriteRecord.length).sum = stop
  aligned : ∀ record ∈ records, blockBytes ∣ record.start * sectorBytes
  whole : ∀ record ∈ records.dropLast, blockBytes ∣ record.length

namespace Tiling

theorem nil : Tiling [] 0 where
  start_eq earlier record later impossible := by
    have none := congrArg List.length impossible
    rw [List.length_append, List.length_cons, List.length_nil] at none
    exact absurd none.symm (Nat.succ_ne_zero _)
  length_pos record member := by cases member
  stop_eq := rfl
  aligned record member := by cases member
  whole record member := by cases member

variable {records : List WriteRecord} {blocks : Nat}

/-- Up to a block all writes are whole blocks long, the last one too. -/
theorem blockBytes_dvd_length (tiling : Tiling records (blocks * blockBytes)) :
    ∀ record ∈ records, blockBytes ∣ record.length := by
  rcases List.eq_nil_or_concat records with rfl | ⟨earlier, last, rfl⟩
  · intro record member
    cases member
  · rw [List.concat_eq_append] at tiling ⊢
    intro record member
    rcases List.mem_append.1 member with before | ends
    · refine tiling.whole record ?_
      rw [List.dropLast_concat]
      exact before
    · obtain rfl := List.mem_singleton.1 ends
      have begins := tiling.aligned record member
      have sum := tiling.stop_eq
      rw [tiling.start_eq earlier record [] rfl] at begins
      rw [List.map_append, List.sum_append, List.map_singleton, List.sum_singleton] at sum
      exact (Nat.dvd_add_right begins).1 (sum.symm ▸ Nat.dvd_mul_left _ _)

/-- A write at the next block. -/
theorem append (tiling : Tiling records (blocks * blockBytes)) {length : Nat}
    (some : 0 < length) :
    Tiling (records ++ [⟨blocks * blockSectors, length⟩]) (blocks * blockBytes + length) where
  start_eq earlier record later split := by
    rcases List.eq_nil_or_concat later with rfl | ⟨middle, last, rfl⟩
    · obtain ⟨rfl, equal⟩ := List.append_inj' split rfl
      cases equal
      rw [tiling.stop_eq, Nat.mul_assoc]
      rfl
    · refine tiling.start_eq earlier record middle ?_
      rw [List.concat_eq_append, ← List.cons_append, ← List.append_assoc] at split
      exact (List.append_inj' split rfl).1
  length_pos record member := by
    rcases List.mem_append.1 member with before | last
    · exact tiling.length_pos record before
    · obtain rfl := List.mem_singleton.1 last
      exact some
  stop_eq := by
    rw [List.map_append, List.sum_append, tiling.stop_eq, List.map_singleton, List.sum_singleton]
  aligned record member := by
    rcases List.mem_append.1 member with before | last
    · exact tiling.aligned record before
    · obtain rfl := List.mem_singleton.1 last
      rw [Nat.mul_assoc]
      exact Nat.dvd_mul_left _ _
  whole record member := by
    rw [List.dropLast_concat] at member
    exact tiling.blockBytes_dvd_length record member

end Tiling

end CardFormat
