/-
This file holds what a volume puts on a device: bytes, each stretch at its byte
offset from the start of the device. The stretches of a volume come in rising
order, so that they can be written front to back.
-/

import CardFormat.Bytes.Content
import CardFormat.Checked

namespace CardFormat

/-- Bytes at a byte offset of the device. -/
structure Placement where
  offset : Nat
  bytes : Content

/-- No bytes: whoever writes the volume gets to this offset, with zeros before it. -/
def Placement.finish (offset : Nat) : Placement := ⟨offset, .empty⟩

/-- What a volume consists of. A stretch whose position or bytes fault is reached only
after the stretches before it. -/
abbrev Placements := List (Checked Placement)

end CardFormat
