/-
This file holds the allocation bitmap of exFAT as the bytes that lie on disk: the first
cluster has the lowest bit of the first byte, and all bits are zero at first. A cluster
is allocated by setting its bit, a range by allocating its clusters one after another,
and the free clusters are what remains when the ones of all bytes are taken away. A byte
behind the end and a number that leaves 32 bits are faults. The sets of runs hold the
same bitmaps without going through every cluster.
-/

import CardFormat.Checked
import CardFormat.ExFat.Bitmap

namespace CardFormat.ExFat

/-- How many bits of a byte are one. -/
def ones (byte : UInt8) : Nat := (List.range 8).countP byte.toNat.testBit

/-- The bits of the clusters of a heap, eight in a byte. -/
structure PlainBitmap where
  bytes : Array UInt8
  clusterCount : Nat
  deriving Repr, DecidableEq

namespace PlainBitmap

/-- No cluster is allocated. -/
def empty (clusterCount : Nat) : PlainBitmap :=
  ⟨Array.replicate ((clusterCount + 7) / 8) 0, clusterCount⟩

/-- Where the bit of a cluster is: the index of the byte, and the byte in which this bit is
the only one. Clusters that the heap does not have have no bit. -/
def locate (bitmap : PlainBitmap) (cluster : Nat) : Option (Nat × UInt8) :=
  if cluster < firstCluster then none
  else
    let place := cluster - firstCluster
    if bitmap.clusterCount ≤ place then none
    else some (place / 8, 1 <<< UInt8.ofNat (place % 8))

/-- The byte at an index. -/
def byteAt (bitmap : PlainBitmap) (index : Nat) : Checked UInt8 :=
  match bitmap.bytes[index]? with
  | none => .error .outOfRange
  | some byte => .ok byte

/-- The cluster is allocated. -/
def isAllocated (bitmap : PlainBitmap) (cluster : Nat) : Checked Bool := do
  match bitmap.locate cluster with
  | none => return false
  | some (index, mask) => return (← bitmap.byteAt index) &&& mask != 0

/-- Allocates a cluster. A cluster that the heap does not have is ignored. -/
def allocate (bitmap : PlainBitmap) (cluster : Nat) : Checked PlainBitmap := do
  match bitmap.locate cluster with
  | none => return bitmap
  | some (index, mask) =>
    let byte ← bitmap.byteAt index
    return { bitmap with bytes := bitmap.bytes.setIfInBounds index (byte ||| mask) }

/-- Allocates so many clusters, one after another. -/
def allocateFrom (bitmap : PlainBitmap) (first : Nat) : (count : Nat) → Checked PlainBitmap
  | 0 => .ok bitmap
  | count + 1 => do (← bitmap.allocate first).allocateFrom (first + 1) count

/-- Allocates the clusters of a range. Its end is cut off at the largest 32-bit number. -/
def allocateRange (bitmap : PlainBitmap) (first count : Nat) : Checked PlainBitmap :=
  bitmap.allocateFrom first (min (first + count) 0xFFFFFFFF - first)

/-- How many bits are one, added up byte by byte. -/
def countOnes (bitmap : PlainBitmap) : Checked Nat :=
  bitmap.bytes.toList.foldlM (fun sum byte => Checked.word32 (sum + ones byte)) 0

/-- How many clusters are free. -/
def countFree (bitmap : PlainBitmap) : Checked Nat := do
  Checked.subtract bitmap.clusterCount (← bitmap.countOnes)

/-- How many bytes the bitmap has on disk. -/
def byteCount (bitmap : PlainBitmap) : Nat := bitmap.bytes.size

/-- The bitmap has no bytes. -/
def isEmpty (bitmap : PlainBitmap) : Bool := bitmap.bytes.isEmpty

end PlainBitmap

end CardFormat.ExFat
