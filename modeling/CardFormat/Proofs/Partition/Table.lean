/-
This file proves that a partition table can be made for every card whose partition lies on
it, and that a table takes up one device sector.
-/

import CardFormat.Partition.Table
import CardFormat.Proofs.Attempt
import CardFormat.Proofs.Bytes.Sector

namespace CardFormat

/-- Every block has an address under a geometry with heads and sectors. -/
theorem DiskAddress.ofBlock_eq_ok {heads sectorsPerTrack : Nat} (headsPos : 0 < heads)
    (trackPos : 0 < sectorsPerTrack) (block : Nat) :
    ∃ address, DiskAddress.ofBlock block heads sectorsPerTrack = .ok address := by
  rw [ofBlock, Checked.divide_of_pos (Nat.mul_pos headsPos trackPos), Checked.ok_bind]
  split
  · exact ⟨_, rfl⟩
  · rw [Checked.divide_of_pos trackPos, Checked.ok_bind, Checked.remainder_of_pos headsPos,
      Checked.ok_bind, Checked.remainder_of_pos trackPos, Checked.ok_bind]
    exact ⟨_, rfl⟩

theorem partitionType_eq_ok (filesystem : Filesystem) (partitionBlocks : Nat) {totalBlocks : Nat}
    (positive : 0 < totalBlocks) :
    ∃ type, partitionType filesystem partitionBlocks totalBlocks = .ok type := by
  cases filesystem with
  | fat12 => exact ⟨_, rfl⟩
  | fat16 => exact ⟨_, rfl⟩
  | exFat => exact ⟨_, rfl⟩
  | fat32 =>
    rw [partitionType, Checked.subtract_of_le positive, Checked.ok_bind]
    exact ⟨_, rfl⟩

namespace PartitionEntry

variable {params : Params}

/-- A partition that lies on the card has an entry. -/
theorem ofParams_eq_ok (headsPos : 0 < params.heads) (trackPos : 0 < params.sectorsPerTrack)
    (ratioPos : 0 < params.sectorRatio)
    (blocks : params.totalSectors * params.sectorRatio < 2 ^ 64)
    (inside : params.partitionStart < params.totalSectors) (bootable : Bool) :
    ∃ entry, ofParams params bootable = .ok entry := by
  have start_lt : params.partitionStart * params.sectorRatio <
      params.totalSectors * params.sectorRatio := Nat.mul_lt_mul_of_pos_right inside ratioPos
  obtain ⟨startAddress, startResult⟩ := DiskAddress.ofBlock_eq_ok headsPos trackPos
    (params.partitionStart * params.sectorRatio)
  obtain ⟨type, typeResult⟩ := partitionType_eq_ok params.filesystem
    (params.totalSectors * params.sectorRatio - params.partitionStart * params.sectorRatio)
    (Nat.zero_lt_of_lt start_lt)
  obtain ⟨endAddress, endResult⟩ := DiskAddress.ofBlock_eq_ok headsPos trackPos
    (params.totalSectors * params.sectorRatio - 1)
  rw [ofParams, Checked.word64_of_lt (Nat.lt_trans start_lt blocks), Checked.ok_bind,
    Checked.word64_of_lt blocks, Checked.ok_bind, Checked.subtract_of_le (Nat.le_of_lt start_lt),
    Checked.ok_bind, startResult, Checked.ok_bind, typeResult, Checked.ok_bind,
    Checked.subtract_of_le (Nat.zero_lt_of_lt start_lt), Checked.ok_bind, endResult,
    Checked.ok_bind]
  exact ⟨_, rfl⟩

theorem length_encode (entry : PartitionEntry) : entry.encode.length = size := by
  simp only [encode, DiskAddress.encode, List.length_append, List.length_cons, List.length_nil,
    LittleEndian.length_word32]
  rfl

end PartitionEntry

namespace PartitionTable

theorem length_encodeEntries (partitions : List PartitionEntry) :
    (encodeEntries partitions).length = (partitions.take limit).length * PartitionEntry.size := by
  rw [encodeEntries, List.length_flatMap]
  simp only [PartitionEntry.length_encode, List.map_const', List.sum_replicate_nat]

/-- A table takes up one sector. -/
theorem length_encode (table : PartitionTable) : table.encode.length = sectorBytes := by
  have few : (table.partitions.take limit).length * PartitionEntry.size ≤
      limit * PartitionEntry.size := by
    rw [List.length_take]
    exact Nat.mul_le_mul_right _ (Nat.min_le_left _ _)
  simp only [encode, List.length_append, List.length_replicate, length_encodeEntries,
    Nat.add_sub_cancel' few, LittleEndian.length_word32]
  rfl

/-- The place of the first block of the first partition. -/
def startBlockOffset : Nat := entriesOffset + 8

/-- The place of the number of its blocks. -/
def blockCountOffset : Nat := entriesOffset + 12

/-- The block numbers of a single partition stand at their places. -/
theorem readNumber_encode (signature : UInt32) (entry : PartitionEntry) :
    Sector.readNumber (encode ⟨signature, [entry]⟩) startBlockOffset 4 =
        entry.startBlock.toNat ∧
      Sector.readNumber (encode ⟨signature, [entry]⟩) blockCountOffset 4 =
        entry.blockCount.toNat := by
  have parts : ∃ front back, front.length = startBlockOffset ∧
      encode ⟨signature, [entry]⟩ = front ++ (LittleEndian.word32 entry.startBlock ++
        (LittleEndian.word32 entry.blockCount ++ back)) := by
    refine ⟨List.replicate diskSignatureOffset 0 ++ LittleEndian.word32 signature ++ [0, 0] ++
      (if entry.bootable then 0x80 else 0x00) :: entry.startAddress.encode ++
        entry.type :: entry.endAddress.encode,
      List.replicate (limit * PartitionEntry.size - (encodeEntries [entry]).length) 0 ++
        Sector.signature, ?_, ?_⟩
    · simp only [DiskAddress.encode, List.length_append, List.length_cons, List.length_nil,
        List.length_replicate, LittleEndian.length_word32]
      rfl
    · rw [encode, show encodeEntries [entry] = entry.encode from List.append_nil _,
        PartitionEntry.encode]
      simp only [List.append_assoc]
  obtain ⟨front, back, place, equal⟩ := parts
  rw [equal]
  refine ⟨Sector.readNumber_word32 place, ?_⟩
  rw [← List.append_assoc]
  refine Sector.readNumber_word32 ?_
  rw [List.length_append, place, LittleEndian.length_word32]
  rfl

end PartitionTable

end CardFormat
