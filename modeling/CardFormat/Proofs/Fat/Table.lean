/-
This file reads the entries of a FAT. Read as one little-endian number, a FAT is its entries
one behind the other, each of the filesystem's width; FAT12 entries thereby share bytes. The
FATs of a new volume are their first entries and zeros. Entry 0 is the end mark with the
media byte of the boot sector in its lowest byte, entry 1 is the end mark, and for FAT32 so is
entry 2: the root directory is a chain of one cluster. Every other cluster is free.
-/

import CardFormat.Proofs.Fat.Volume

namespace CardFormat.Fat

variable {params : Params} {area : FatArea}

/-- An entry of a FAT. -/
def fatEntry (filesystem : Filesystem) (table : List UInt8) (cluster : Nat) : Nat :=
  LittleEndian.decode table / 2 ^ (filesystem.entryBits * cluster) % 2 ^ filesystem.entryBits

/-- The entry of the last cluster of a chain. FAT32 leaves the highest four bits alone. -/
def endOfChain : Filesystem → Nat
  | .fat12 => 0xFFF
  | .fat16 => 0xFFFF
  | .fat32 => 0x0FFFFFFF
  | .exFat => 0xFFFFFFFF

/-- The first cluster that a new volume leaves free. -/
def firstFree : Filesystem → Nat
  | .fat32 => 3
  | _ => 2

/-- What a new volume has in an entry of its FATs. -/
def newEntry (filesystem : Filesystem) (cluster : Nat) : Nat :=
  if cluster = 0 then endOfChain filesystem / 256 * 256 + fixedDisk.toNat
  else if cluster < firstFree filesystem then endOfChain filesystem
  else 0

/-- A FAT of a new volume: its first entries, and zeros. -/
def newTable (params : Params) (area : FatArea) : List UInt8 :=
  reservedEntries params.filesystem ++ List.replicate
    (area.fatSectors * params.bytesPerSector - (reservedEntries params.filesystem).length) 0

/-- The first entries are whole entries. -/
theorem length_reservedEntries {filesystem : Filesystem} (isFat : filesystem.isFat = true) :
    8 * (reservedEntries filesystem).length = filesystem.entryBits * firstFree filesystem := by
  cases filesystem with
  | exFat => contradiction
  | _ => rfl

theorem fatEntry_reservedEntries {filesystem : Filesystem} (isFat : filesystem.isFat = true) :
    ∀ cluster < firstFree filesystem,
      fatEntry filesystem (reservedEntries filesystem) cluster = newEntry filesystem cluster := by
  cases filesystem with
  | exFat => contradiction
  | _ => decide

/-- Zeros behind a table do not change its entries. -/
theorem fatEntry_append_zeros (filesystem : Filesystem) (table : List UInt8) (zeros cluster : Nat) :
    fatEntry filesystem (table ++ List.replicate zeros 0) cluster =
      fatEntry filesystem table cluster := by
  rw [fatEntry, LittleEndian.decode_append, LittleEndian.decode_replicate_zero, Nat.mul_zero,
    Nat.add_zero, fatEntry]

/-- A table has zeros behind its last byte. -/
theorem fatEntry_eq_zero {filesystem : Filesystem} {table : List UInt8} {cluster : Nat}
    (behind : 8 * table.length ≤ filesystem.entryBits * cluster) :
    fatEntry filesystem table cluster = 0 := by
  have small : LittleEndian.decode table < 2 ^ (filesystem.entryBits * cluster) := calc
    LittleEndian.decode table < 256 ^ table.length := LittleEndian.decode_lt table
    _ = 2 ^ (8 * table.length) := by rw [Nat.pow_mul]
    _ ≤ 2 ^ (filesystem.entryBits * cluster) := Nat.pow_le_pow_right (by decide) behind
  rw [fatEntry, Nat.div_eq_of_lt small, Nat.zero_mod]

theorem firstFree_pos (filesystem : Filesystem) : 0 < firstFree filesystem := by
  cases filesystem <;> decide

/-- The entries of a new FAT, however long it is: the first ones, and all other clusters
free. -/
theorem fatEntry_newTable (isFat : params.filesystem.isFat = true) (area : FatArea)
    (cluster : Nat) :
    fatEntry params.filesystem (newTable params area) cluster =
      newEntry params.filesystem cluster := by
  rw [newTable, fatEntry_append_zeros]
  by_cases taken : cluster < firstFree params.filesystem
  · exact fatEntry_reservedEntries isFat cluster taken
  · have free : firstFree params.filesystem ≤ cluster := Nat.le_of_not_lt taken
    have notMedia : cluster ≠ 0 := by
      rintro rfl
      exact taken (firstFree_pos _)
    rw [newEntry, if_neg notMedia, if_neg taken]
    apply fatEntry_eq_zero
    rw [length_reservedEntries isFat]
    exact Nat.mul_le_mul_left _ free

end CardFormat.Fat
