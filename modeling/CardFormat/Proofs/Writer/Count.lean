/-
This file counts the writes that a stream takes on its way to a device. Bytes that go through
the current block take one write for each block they complete; whole blocks that are at hand
at once take one together. Bytes that are no more than a block take one write for each block
they complete, whichever way they go, and so the count of a stream of short pieces depends
only on where it begins and ends.
-/

import CardFormat.Writer

namespace CardFormat.Writer

theorem blockBytes_eq : blockBytes = 8192 * sectorBytes := rfl

theorem blockBytes_pos : 0 < blockBytes := by decide

/-- The blocks that so many bytes behind a position complete. -/
def blocksCompleted (position size : Nat) : Nat :=
  (position + size) / blockBytes - position / blockBytes

/-- How far it is from a position to the next block; nothing, if a block begins there. -/
def leadAt (position : Nat) : Nat :=
  if position % blockBytes = 0 then 0 else blockBytes - position % blockBytes

/-- The writes that appending takes: one for the block that the bytes complete, if it has been
begun, and one for the whole blocks behind it. -/
def appendWrites (position size : Nat) : Nat :=
  blocksCompleted position (min (leadAt position) size) +
    if size - leadAt position < blockBytes then 0 else 1

/-- The writes that appending at an offset takes, with the zeros before it. -/
def appendAtWrites (position offset size : Nat) : Nat :=
  blocksCompleted position (offset - position) + appendWrites offset size

/-- The writes that stretches take one after another. -/
def placementWrites : (position : Nat) → List Placement → Nat
  | _, [] => 0
  | position, placement :: rest =>
    appendAtWrites position placement.offset placement.bytes.size +
      placementWrites (placement.offset + placement.bytes.size) rest

/-- The write that the end of a stream takes, if there is anything left of it. -/
def flushWrites (position : Nat) : Nat :=
  if position % blockBytes = 0 then 0 else 1

/-! ### Blocks that are completed -/

theorem blocksCompleted_zero (position : Nat) : blocksCompleted position 0 = 0 := by
  rw [blocksCompleted, Nat.add_zero, Nat.sub_self]

/-- Bytes that stay inside a block complete none. -/
theorem blocksCompleted_of_lt {position size : Nat}
    (inside : position % blockBytes + size < blockBytes) : blocksCompleted position size = 0 := by
  unfold blocksCompleted
  unfold blockBytes at inside ⊢
  omega

/-- What completes a block takes one write, and the rest is counted from the next block on. -/
theorem blocksCompleted_of_le {position size : Nat}
    (full : blockBytes ≤ position % blockBytes + size) :
    blocksCompleted position size =
      1 + blocksCompleted (position + (blockBytes - position % blockBytes))
        (size - (blockBytes - position % blockBytes)) := by
  unfold blocksCompleted
  unfold blockBytes at full ⊢
  omega

/-! ### Leads -/

/-- The lead ends where a block begins. -/
theorem add_leadAt_mod (position : Nat) : (position + leadAt position) % blockBytes = 0 := by
  unfold leadAt blockBytes
  split <;> omega

/-! ### Short pieces -/

/-- Bytes that are no more than a block take a write for each block they complete. -/
theorem appendWrites_of_le {size : Nat} (narrow : size ≤ blockBytes) (position : Nat) :
    appendWrites position size = blocksCompleted position size := by
  unfold appendWrites leadAt blocksCompleted
  unfold blockBytes at narrow ⊢
  split <;> split <;> omega

/-- The count of a short piece depends on where the stream ends before and behind it. -/
theorem appendAtWrites_of_le {position offset size : Nat} (after : position ≤ offset)
    (narrow : size ≤ blockBytes) :
    appendAtWrites position offset size =
      (offset + size) / blockBytes - position / blockBytes := by
  have first : position / blockBytes ≤ offset / blockBytes := Nat.div_le_div_right after
  have second : offset / blockBytes ≤ (offset + size) / blockBytes :=
    Nat.div_le_div_right (Nat.le_add_right _ _)
  rw [appendAtWrites, appendWrites_of_le narrow, blocksCompleted, blocksCompleted,
    Nat.add_sub_cancel' after]
  omega

/-- With the end of the stream there is a write for each block that it touches. -/
theorem div_add_flushWrites (position : Nat) :
    position / blockBytes + flushWrites position = (position + blockBytes - 1) / blockBytes := by
  unfold flushWrites blockBytes
  split <;> omega

end CardFormat.Writer
