/-
This file says what a device is to everything above it: something with a size in
512-byte sectors that can be read, written, discarded, resized and closed. Each
action has a result and leaves a device behind, also when it fails. A device
without discard says so by the kind of its error, and a caller may go on.
-/

import CardFormat.Bytes.Content
import CardFormat.IoError
import CardFormat.Params.Basic

namespace CardFormat

/-- An action on a device. -/
abbrev DeviceAction (Device Value : Type) := EStateM IoError Device Value

/-- A device that is addressed in 512-byte sectors. -/
class BlockDevice (Device : Type) where
  /-- Size in sectors; a new image has none. -/
  sectorCount : Device → Nat
  /-- The device is an image in a regular file. -/
  isRegularFile : Device → Bool
  /-- The bytes from a sector on. -/
  read : Device → (start length : Nat) → Except IoError Content
  /-- Puts bytes at a sector. -/
  write : (start : Nat) → (bytes : Content) → DeviceAction Device Unit
  /-- Discards everything. -/
  discard : (secure : Bool) → DeviceAction Device Unit
  /-- Gives an image a size in sectors. -/
  truncate : (sectors : Nat) → DeviceAction Device Unit
  /-- Makes the contents durable and lets go of the device. A second time does nothing. -/
  close : DeviceAction Device Unit

/-- The whole sectors of a transfer; other lengths are refused. -/
def wholeSectors (length : Nat) : Except IoError Nat :=
  if length % sectorBytes = 0 then .ok (length / sectorBytes)
  else .error (.partialSector length)

end CardFormat
