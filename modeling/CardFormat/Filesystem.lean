/-
This file holds the four filesystems a card can carry.
-/

namespace CardFormat

/-- The kind of filesystem. -/
inductive Filesystem where
  | fat12
  | fat16
  | fat32
  | exFat
  deriving Repr, DecidableEq

namespace Filesystem

/-- Bits of one entry of the file allocation table. -/
def entryBits : Filesystem → Nat
  | .fat12 => 12
  | .fat16 => 16
  | .fat32 => 32
  | .exFat => 32

/-- The name people read. -/
def name : Filesystem → String
  | .fat12 => "FAT12"
  | .fat16 => "FAT16"
  | .fat32 => "FAT32"
  | .exFat => "exFAT"

/-- The name records are tagged with. -/
def tag : Filesystem → String
  | .fat12 => "Fat12"
  | .fat16 => "Fat16"
  | .fat32 => "Fat32"
  | .exFat => "ExFat"

/-- One of the three FAT variants. -/
def isFat : Filesystem → Bool
  | .exFat => false
  | _ => true

theorem entryBits_pos (filesystem : Filesystem) : 0 < filesystem.entryBits := by
  cases filesystem <;> decide

end Filesystem

end CardFormat
