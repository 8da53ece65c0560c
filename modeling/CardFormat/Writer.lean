/-
This file holds a writer that puts a stream of bytes on a device, front to back. It
gathers the bytes in blocks of 4 MiB, so that every write to the device starts at a
block; whole blocks that are at hand at once go to the device together. Gaps are
filled with zeros and never read back. A block whose write fails is lost, and the
stream goes on behind it; whole blocks that go to the device together and fail are
not taken into the stream.
-/

import CardFormat.Device.Basic
import CardFormat.Placement

namespace CardFormat

/-- Bytes of a block. -/
def blockBytes : Nat := 4 * 1024 * 1024

/-- Sectors of a block. -/
def blockSectors : Nat := blockBytes / sectorBytes

/-- A stream on its way to a device: the blocks that are behind it, and the bytes of
the block it is in. -/
structure Writer (Device : Type) where
  device : Device
  /-- Whole blocks behind the stream. -/
  blocks : Nat
  /-- Bytes of the current block. -/
  pending : Content
  unfinished : pending.size < blockBytes

/-- An action on a writer. -/
abbrev Writing (Device Value : Type) := EStateM IoError (Writer Device) Value

namespace Writer

variable {Device : Type} [BlockDevice Device]

/-- A stream at its start. -/
def start (device : Device) : Writer Device :=
  ⟨device, 0, .empty, by decide⟩

/-- Bytes in the stream so far. -/
def position (writer : Writer Device) : Nat :=
  writer.blocks * blockBytes + writer.pending.size

/-- The writer at the start of a block. -/
def atBlock (device : Device) (blocks : Nat) : Writer Device :=
  ⟨device, blocks, .empty, by decide⟩

/-- Puts bytes at a block of the device and goes on behind so many blocks. If the
write fails, it goes on behind as many blocks as the failure leaves. -/
def putBlocks (bytes : Content) (advance advanceOnFailure : Nat) : Writing Device Unit :=
  fun writer =>
    match BlockDevice.write (writer.blocks * blockSectors) bytes writer.device with
    | .ok _ device => .ok () (atBlock device (writer.blocks + advance))
    | .error error device => .error error (atBlock device (writer.blocks + advanceOnFailure))

/-- Appends bytes through the current block. A block goes to the device when it is
full; if that fails, the bytes after it are not appended. -/
def push (bytes : Content) (writer : Writer Device) :
    EStateM.Result IoError (Writer Device) Unit :=
  if fits : writer.pending.size + bytes.size < blockBytes then
    .ok () ⟨writer.device, writer.blocks, writer.pending ++ bytes, by
      rw [Content.size_append]
      exact fits⟩
  else
    let room := blockBytes - writer.pending.size
    match putBlocks (writer.pending ++ bytes.take room) 1 1 writer with
    | .error error next => .error error next
    | .ok _ next => push (bytes.drop room) next
termination_by bytes.size
decreasing_by
  have := writer.unfinished
  rw [Content.size_drop]
  omega

/-- Appends zeros up to an offset. The stream never goes back. -/
def fill (offset : Nat) : Writing Device Unit := fun writer =>
  if offset < writer.position then
    .error ⟨.invalidInput, s!"cannot fill backwards from {writer.position} to {offset}"⟩ writer
  else push (.zeros (offset - writer.position)) writer

/-- Puts whole blocks on the device at once, if there are any. -/
def putWhole (bytes : Content) : Writing Device Unit :=
  if bytes.size = 0 then return ()
  else putBlocks bytes (bytes.size / blockBytes) 0

/-- Appends bytes: first what completes the current block, then the whole blocks at
once, then the rest. -/
def append (bytes : Content) : Writing Device Unit := do
  let writer ← get
  let lead := if writer.pending.size = 0 then 0 else blockBytes - writer.pending.size
  push (bytes.take lead)
  let rest := bytes.drop lead
  let whole := rest.size - rest.size % blockBytes
  putWhole (rest.take whole)
  push (rest.drop whole)

/-- Appends bytes at an offset, after zeros up to there. -/
def appendAt (offset : Nat) (bytes : Content) : Writing Device Unit := do
  fill offset
  append bytes

/-- Appends a stretch of a volume. -/
def place (placement : Placement) : Writing Device Unit :=
  appendAt placement.offset placement.bytes

/-- Writes what is pending, padded with zeros to a whole sector, and gives the length
of the stream. -/
def flush : Writing Device Nat := fun writer =>
  if writer.pending.size = 0 then .ok writer.position writer
  else
    let padded := (writer.pending.size + sectorBytes - 1) / sectorBytes * sectorBytes
    match BlockDevice.write (writer.blocks * blockSectors) (writer.pending.resize padded)
        writer.device with
    | .ok _ device => .ok writer.position { writer with device := device }
    | .error error device => .error error { writer with device := device }

/-- Appends a stretch whose position and bytes are known. -/
def placeChecked (placement : Checked Placement) :
    EStateM (Failure IoError) (Writer Device) Unit :=
  match placement with
  | .error fault => throw (.fault fault)
  | .ok placement => (place placement).adaptExcept .refused

/-- Appends the stretches of a volume in order. -/
def placeAll : Placements → EStateM (Failure IoError) (Writer Device) Unit
  | [] => return ()
  | placement :: rest => do
    placeChecked placement
    placeAll rest

end Writer

end CardFormat
