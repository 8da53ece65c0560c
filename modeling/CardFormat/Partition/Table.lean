/-
This file holds the first sector of a card: the disk signature, up to four
partition entries, and the mark at its end. Reading skips empty entries.
-/

import CardFormat.Partition.Entry

namespace CardFormat

/-- The contents of the first sector. -/
structure PartitionTable where
  diskSignature : UInt32
  partitions : List PartitionEntry
  deriving Repr, DecidableEq

namespace PartitionTable

/-- The most partitions a table has. -/
def limit : Nat := 4

/-- The place of the disk signature. -/
def diskSignatureOffset : Nat := 440

/-- The place of the first entry. -/
def entriesOffset : Nat := 446

/-- The bytes of the entries, without the empty ones after them. -/
def encodeEntries (partitions : List PartitionEntry) : List UInt8 :=
  (partitions.take limit).flatMap PartitionEntry.encode

/-- The first sector. Partitions beyond the fourth are left out. -/
def encode (table : PartitionTable) : List UInt8 :=
  let entries := encodeEntries table.partitions
  List.replicate diskSignatureOffset 0 ++ LittleEndian.word32 table.diskSignature ++ [0, 0] ++
    (entries ++ List.replicate (limit * PartitionEntry.size - entries.length) 0) ++
    Sector.signature

/-- The entry at an index of a first sector. -/
def decodeEntry (sector : List UInt8) (index : Nat) : Option PartitionEntry :=
  PartitionEntry.decode
    (Sector.read sector (entriesOffset + index * PartitionEntry.size) PartitionEntry.size)

/-- The contents of a first sector; without the mark it has none. -/
def decode (sector : List UInt8) : Option PartitionTable :=
  if sector.length < sectorBytes ∨
      Sector.read sector Sector.signatureOffset 2 ≠ Sector.signature then none
  else some {
    diskSignature := UInt32.ofNat (Sector.readNumber sector diskSignatureOffset 4)
    partitions := (List.range limit).filterMap (decodeEntry sector) }

/-- The table of a card with the one partition that the parameters describe. -/
def ofParams (params : Params) (diskSignature : UInt32) (bootable : Bool) :
    Checked PartitionTable := do
  return ⟨diskSignature, [← PartitionEntry.ofParams params bootable]⟩

end PartitionTable

end CardFormat
