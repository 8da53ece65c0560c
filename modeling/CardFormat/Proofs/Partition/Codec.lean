/-
This file proves that a partition table survives its sector. What a table says is read back
from its bytes if it has no more entries than slots and none that reads as empty or exceeds
its fields, and every table that is read from a sector is of that kind. So a sector that
something else wrote may have gaps between its entries, other flags and other bytes in front
of them, but once it is written again from what was read, it is read the same.
-/

import CardFormat.Proofs.Partition.Address
import CardFormat.Proofs.Partition.Table
import Mathlib.Data.List.Basic

namespace CardFormat

namespace PartitionEntry

/-- The entry is not empty, and its addresses fit their bytes. -/
def IsStorable (entry : PartitionEntry) : Prop :=
  entry.type ≠ 0 ∧ entry.startAddress.IsStorable ∧ entry.endAddress.IsStorable

instance (entry : PartitionEntry) : Decidable entry.IsStorable := by
  unfold IsStorable
  infer_instance

/-- An entry that can be stored is read back. -/
theorem decode_encode {entry : PartitionEntry} (storable : entry.IsStorable) :
    decode entry.encode = some entry := by
  obtain ⟨bootable, startAddress, type, endAddress, startBlock, blockCount⟩ := entry
  obtain ⟨typed, startFits, endFits⟩ := storable
  obtain ⟨head, middle, low, start⟩ : ∃ head middle low, startAddress.encode = [head, middle, low] :=
    ⟨_, _, _, rfl⟩
  obtain ⟨endHead, endMiddle, endLow, last⟩ :
      ∃ head middle low, endAddress.encode = [head, middle, low] := ⟨_, _, _, rfl⟩
  have numbers : (LittleEndian.word32 startBlock ++ LittleEndian.word32 blockCount).length = 8 := by
    rw [List.length_append, LittleEndian.length_word32, LittleEndian.length_word32]
  have first : Sector.readNumber
      (LittleEndian.word32 startBlock ++ LittleEndian.word32 blockCount) 0 4 = startBlock.toNat :=
    Sector.readNumber_word32 (show ([] : List UInt8).length = 0 from rfl)
  have second : Sector.readNumber
      (LittleEndian.word32 startBlock ++ (LittleEndian.word32 blockCount ++ [])) 4 4 =
        blockCount.toNat :=
    Sector.readNumber_word32 (LittleEndian.length_word32 startBlock)
  rw [List.append_nil] at second
  rw [encode, start, last]
  simp only [List.cons_append, List.nil_append, decode, numbers, first, second, typed,
    Nat.lt_irrefl, or_self, if_false, UInt32.ofNat_toNat, DiskAddress.decode_of_encode startFits start,
    DiskAddress.decode_of_encode endFits last]
  cases bootable <;> rfl

/-- An entry that is read can be stored. -/
theorem storable_of_decode {bytes : List UInt8} {entry : PartitionEntry}
    (read : decode bytes = some entry) : entry.IsStorable := by
  unfold decode at read
  split at read
  · split at read
    · cases read
    · rename_i present
      cases read
      exact ⟨fun empty => present (.inr empty), DiskAddress.storable_decode _ _ _,
        DiskAddress.storable_decode _ _ _⟩
  · cases read

theorem decode_zeros : decode (List.replicate size 0) = none := rfl

end PartitionEntry

namespace PartitionTable

/-- There are no more entries than slots, and each can be stored. -/
def IsStorable (table : PartitionTable) : Prop :=
  table.partitions.length ≤ limit ∧ ∀ entry ∈ table.partitions, entry.IsStorable

/-! ### Slots -/

/-- The entry in a slot of the area that holds them all. -/
def slot (area : List UInt8) (index : Nat) : Option PartitionEntry :=
  PartitionEntry.decode (Sector.read area (index * PartitionEntry.size) PartitionEntry.size)

theorem slot_zeros {count index : Nat} (inside : index < count) :
    slot (List.replicate (count * PartitionEntry.size) 0) index = none := by
  have within : index * PartitionEntry.size + PartitionEntry.size ≤ count * PartitionEntry.size := by
    rw [← Nat.succ_mul]
    exact Nat.mul_le_mul_right _ inside
  rw [slot, Sector.read_replicate within, PartitionEntry.decode_zeros]

theorem slot_zero_append {entry : PartitionEntry} (storable : entry.IsStorable)
    (rest : List UInt8) : slot (entry.encode ++ rest) 0 = some entry := by
  have whole : Sector.read (entry.encode ++ rest) 0 PartitionEntry.size = entry.encode := by
    have middle : Sector.read ([] ++ (entry.encode ++ rest)) 0 entry.encode.length = entry.encode :=
      Sector.read_middle rfl
    rwa [PartitionEntry.length_encode] at middle
  rw [slot, Nat.zero_mul, whole, PartitionEntry.decode_encode storable]

theorem slot_succ_append (entry : PartitionEntry) (rest : List UInt8) (index : Nat) :
    slot (entry.encode ++ rest) (index + 1) = slot rest index := by
  have place : (index + 1) * PartitionEntry.size =
      entry.encode.length + index * PartitionEntry.size := by
    rw [PartitionEntry.length_encode, Nat.succ_mul, Nat.add_comm]
  rw [slot, slot, place, Sector.read, Sector.read, ← List.drop_drop, List.drop_left]

/-- Entries in a row with empty slots behind them are read in order. -/
theorem filterMap_slot {entries : List PartitionEntry}
    (storable : ∀ entry ∈ entries, entry.IsStorable) (empty : Nat) :
    (List.range (entries.length + empty)).filterMap
        (slot (entries.flatMap PartitionEntry.encode ++
          List.replicate (empty * PartitionEntry.size) 0)) = entries := by
  induction entries with
  | nil =>
    rw [List.filterMap_eq_nil_iff]
    intro index member
    rw [List.length_nil, Nat.zero_add, List.mem_range] at member
    exact slot_zeros member
  | cons entry rest inductionHypothesis =>
    rw [List.forall_mem_cons] at storable
    rw [List.length_cons, Nat.add_right_comm, List.range_succ_eq_map, List.flatMap_cons,
      List.append_assoc, List.filterMap_cons_some (slot_zero_append storable.1 _),
      List.filterMap_map]
    simp only [Function.comp_def, Nat.succ_eq_add_one, slot_succ_append]
    rw [inductionHypothesis storable.2]

/-! ### The whole sector -/

/-- Reading a slot of a sector reads it from the area of the slots. -/
theorem decodeEntry_eq_slot {sector : List UInt8} {index : Nat} (inside : index < limit) :
    decodeEntry sector index =
      slot (Sector.read sector entriesOffset (limit * PartitionEntry.size)) index := by
  have within : index * PartitionEntry.size + PartitionEntry.size ≤ limit * PartitionEntry.size := by
    rw [← Nat.succ_mul]
    exact Nat.mul_le_mul_right _ inside
  rw [decodeEntry, slot, Sector.read_read within]

theorem decode_eq_some {sector : List UInt8} (long : sectorBytes ≤ sector.length)
    (marked : Sector.read sector Sector.signatureOffset 2 = Sector.signature) :
    decode sector = some {
      diskSignature := UInt32.ofNat (Sector.readNumber sector diskSignatureOffset 4)
      partitions := (List.range limit).filterMap
        (slot (Sector.read sector entriesOffset (limit * PartitionEntry.size))) } := by
  have slots : (List.range limit).filterMap (decodeEntry sector) = (List.range limit).filterMap
      (slot (Sector.read sector entriesOffset (limit * PartitionEntry.size))) :=
    List.filterMap_congr fun index member => decodeEntry_eq_slot (List.mem_range.1 member)
  rw [decode, if_neg (by rw [not_or]; exact ⟨Nat.not_lt.2 long, not_not.2 marked⟩), slots]

/-- A sector holds a table exactly if it is long enough and ends in the mark. -/
theorem isSome_decode_iff (sector : List UInt8) :
    (decode sector).isSome ↔
      sectorBytes ≤ sector.length ∧ sector[510]? = some 0x55 ∧ sector[511]? = some 0xAA := by
  by_cases long : sectorBytes ≤ sector.length
  · rw [← Sector.marked_iff long]
    by_cases marked : Sector.read sector Sector.signatureOffset 2 = Sector.signature
    · rw [decode_eq_some long marked]
      exact ⟨fun _ => ⟨long, marked⟩, fun _ => rfl⟩
    · rw [decode, if_pos (.inr marked)]
      exact ⟨nofun, fun present => absurd present.2 marked⟩
  · rw [decode, if_pos (.inl (Nat.not_le.1 long))]
    exact ⟨nofun, fun present => absurd present.1 long⟩

/-- What is read from a sector can be stored. -/
theorem storable_of_decode {sector : List UInt8} {table : PartitionTable}
    (read : decode sector = some table) : table.IsStorable := by
  rw [decode] at read
  split at read
  · cases read
  · cases read
    constructor
    · exact (List.length_filterMap_le _ _).trans (Nat.le_of_eq List.length_range)
    · intro entry member
      obtain ⟨index, -, found⟩ := List.mem_filterMap.1 member
      exact PartitionEntry.storable_of_decode found

/-- The entries of a table, with empty slots behind them. -/
theorem area_eq {partitions : List PartitionEntry} (few : partitions.length ≤ limit) :
    encodeEntries partitions ++
        List.replicate (limit * PartitionEntry.size - (encodeEntries partitions).length) 0 =
      partitions.flatMap PartitionEntry.encode ++
        List.replicate ((limit - partitions.length) * PartitionEntry.size) 0 := by
  rw [length_encodeEntries, encodeEntries, List.take_of_length_le few, Nat.sub_mul]

theorem length_area {partitions : List PartitionEntry} (few : partitions.length ≤ limit) :
    (partitions.flatMap PartitionEntry.encode ++
      List.replicate ((limit - partitions.length) * PartitionEntry.size) 0).length =
      limit * PartitionEntry.size := by
  have entries := length_encodeEntries partitions
  rw [encodeEntries, List.take_of_length_le few] at entries
  rw [List.length_append, entries, List.length_replicate, ← Nat.add_mul, Nat.add_sub_cancel' few]

/-- A table that can be stored is read back. -/
theorem decode_encode {table : PartitionTable} (storable : table.IsStorable) :
    decode table.encode = some table := by
  obtain ⟨signature, partitions⟩ := table
  obtain ⟨few, entries⟩ := storable
  simp only at few entries
  have long := (length_encode ⟨signature, partitions⟩).ge
  have parts : encode ⟨signature, partitions⟩ =
      List.replicate diskSignatureOffset 0 ++ LittleEndian.word32 signature ++ [0, 0] ++
        (partitions.flatMap PartitionEntry.encode ++
          List.replicate ((limit - partitions.length) * PartitionEntry.size) 0) ++
        Sector.signature := by
    rw [encode, area_eq few]
  have slots := filterMap_slot entries (limit - partitions.length)
  rw [Nat.add_sub_cancel' few] at slots
  have areaLength := length_area few
  generalize partitions.flatMap PartitionEntry.encode ++
    List.replicate ((limit - partitions.length) * PartitionEntry.size) 0 = area at *
  have front : (List.replicate diskSignatureOffset 0 ++ LittleEndian.word32 signature ++
      [0, 0]).length = entriesOffset := by
    rw [List.length_append, List.length_append, List.length_replicate,
      LittleEndian.length_word32]
    rfl
  have number : Sector.readNumber (encode ⟨signature, partitions⟩) diskSignatureOffset 4 =
      signature.toNat := by
    rw [parts]
    simp only [List.append_assoc]
    exact Sector.readNumber_word32 List.length_replicate
  have found : Sector.read (encode ⟨signature, partitions⟩) entriesOffset
      (limit * PartitionEntry.size) = area := by
    rw [parts, List.append_assoc, ← areaLength]
    exact Sector.read_middle front
  have marked : Sector.read (encode ⟨signature, partitions⟩) Sector.signatureOffset 2 =
      Sector.signature := by
    rw [parts, ← List.append_nil Sector.signature]
    refine Sector.read_middle ?_
    rw [List.length_append, front, areaLength]
    rfl
  rw [decode_eq_some long marked, found, slots, number, UInt32.ofNat_toNat]

/-- Reading undoes writing for every table that can be stored, and exactly those are read from
sectors. A sector holds a table if it is long enough and marked, and then writing the table and
reading it again gives the same table, whatever else the sector held. -/
theorem codec_round_trip :
    (∀ table : PartitionTable, table.IsStorable ↔ decode table.encode = some table) ∧
      ∀ sector : List UInt8,
        ((decode sector).isSome ↔
          sectorBytes ≤ sector.length ∧ sector[510]? = some 0x55 ∧ sector[511]? = some 0xAA) ∧
        ∀ table, decode sector = some table →
          table.IsStorable ∧ decode table.encode = some table := by
  refine ⟨fun table => ⟨decode_encode, storable_of_decode⟩, fun sector =>
    ⟨isSome_decode_iff sector, fun table read => ?_⟩⟩
  have storable := storable_of_decode read
  exact ⟨storable, decode_encode storable⟩

/-- A foreign sector: other bytes in front, an empty slot, and three entries with a flag that is
neither. -/
def foreignSector : List UInt8 :=
  List.replicate 446 0xEE ++ List.replicate 16 0 ++ List.replicate 48 0xFF ++ [0x55, 0xAA]

/-- What the foreign sector holds is written to other bytes, and read the same from them. -/
theorem codec_round_trip_foreign :
    ∃ table, decode foreignSector = some table ∧ table.partitions.length = 3 ∧
      table.encode ≠ foreignSector ∧ table.IsStorable ∧ decode table.encode = some table := by
  have read : decode foreignSector = some ⟨0xEEEEEEEE, List.replicate 3
      ⟨false, ⟨1023, 255, 63⟩, 0xFF, ⟨1023, 255, 63⟩, 0xFFFFFFFF, 0xFFFFFFFF⟩⟩ := by
    decide +kernel
  obtain ⟨storable, same⟩ := (codec_round_trip.2 foreignSector).2 _ read
  exact ⟨_, read, rfl, by decide +kernel, storable, same⟩

end PartitionTable

end CardFormat
