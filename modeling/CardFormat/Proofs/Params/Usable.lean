/-
This file says what is needed of parameters to write a card: they pass the check, the
geometry is one that addresses allow, and the bytes of the card can be numbered. The
parameters planned for a capacity are of this kind.
-/

import CardFormat.Proofs.Params.Planning
import CardFormat.Proofs.Partition.Table

namespace CardFormat

theorem sectorBytes_dvd_of_power {bytes : Nat} (power : isPowerOfTwo bytes = true)
    (least : 512 ≤ bytes) : sectorBytes ∣ bytes := by
  obtain ⟨exponent, rfl⟩ := isPowerOfTwo_iff.1 power
  have large : 9 ≤ exponent := by
    rw [← Nat.pow_le_pow_iff_right (show 1 < 2 by decide)]
    exact least
  exact Nat.pow_dvd_pow 2 large

theorem pos_of_power {value : Nat} (power : isPowerOfTwo value = true) : 0 < value := by
  obtain ⟨exponent, rfl⟩ := isPowerOfTwo_iff.1 power
  exact Nat.two_pow_pos exponent

namespace Params

theorem Valid.clusterBytes_pos {params : Params} (valid : params.Valid) :
    0 < params.clusterBytes :=
  Nat.mul_pos (pos_of_power valid.cluster_power)
    (Nat.lt_of_lt_of_le (by decide) valid.sector_ge)

/-- The parameters are those of a card that can be written. -/
structure Usable (params : Params) : Prop where
  valid : params.Valid
  heads_pos : 0 < params.heads
  heads_le : params.heads ≤ 255
  track_pos : 0 < params.sectorsPerTrack
  track_le : params.sectorsPerTrack ≤ 63
  bytes_fit : params.totalSectors * params.bytesPerSector < 2 ^ 64

theorem PlannedFor.usable {params : Params} {sectors : Nat}
    (planned : params.PlannedFor sectors) : params.Usable where
  valid := planned.valid
  heads_pos := planned.heads.1
  heads_le := planned.heads.2
  track_pos := planned.track.1
  track_le := planned.track.2
  bytes_fit := by
    have capacity := planned.capacity_le
    have high := planned.high
    unfold sectorBytes at capacity
    omega

theorem PlannedFor.totalSectors_le {params : Params} {sectors : Nat}
    (planned : params.PlannedFor sectors) : params.totalSectors ≤ sectors := by
  have product := Nat.mul_le_mul_left params.totalSectors planned.valid.sector_ge
  have capacity := planned.capacity_le
  unfold sectorBytes at capacity
  omega

namespace Usable

variable {params : Params}

theorem sectorBytes_dvd (usable : params.Usable) : sectorBytes ∣ params.bytesPerSector :=
  sectorBytes_dvd_of_power usable.valid.sector_power usable.valid.sector_ge

theorem sectorRatio_pos (usable : params.Usable) : 0 < params.sectorRatio :=
  Nat.div_pos usable.valid.sector_ge (by decide)

/-- The partition begins before the end of the card. -/
theorem partitionStart_lt (usable : params.Usable) :
    params.partitionStart < params.totalSectors := by
  have regions := usable.valid.layout
  obtain ⟨total, bytes, cluster, alignment, filesystem, heads, track, layout⟩ := params
  cases layout with
  | fat area =>
    have fats := regions.fatSectors_pos
    have size : area.size = area.reserved + 2 * area.fatSectors + _ := regions.size_eq
    have finish : area.start + area.size + area.clusters * cluster ≤ total := regions.end_le
    simp only [partitionStart]
    omega
  | exFat area =>
    have table : 24 ≤ area.fatOffset := regions.fatOffset_ge
    have fat : area.fatOffset + area.fatLength ≤ area.heapOffset := regions.fatEnd_le
    have heap : area.heapOffset + area.clusters * cluster ≤ area.length := regions.heapEnd_le
    have finish : area.start + area.length ≤ total := regions.end_le
    simp only [partitionStart]
    omega

theorem blocks_fit (usable : params.Usable) : params.totalSectors * params.sectorRatio < 2 ^ 64 :=
  Nat.lt_of_le_of_lt (Nat.mul_le_mul_left _ (Nat.div_le_self _ _)) usable.bytes_fit

/-- There is a partition table for the card. -/
theorem partitionTable_eq_ok (usable : params.Usable) (signature : UInt32) (bootable : Bool) :
    ∃ table, PartitionTable.ofParams params signature bootable = .ok table := by
  obtain ⟨entry, result⟩ := PartitionEntry.ofParams_eq_ok usable.heads_pos usable.track_pos
    usable.sectorRatio_pos usable.blocks_fit usable.partitionStart_lt bootable
  rw [PartitionTable.ofParams, result]
  exact ⟨_, rfl⟩

end Usable

end Params

end CardFormat
