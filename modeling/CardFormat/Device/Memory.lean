/-
This file holds a device in memory. It is an image, which grows when it is written
past its end, or a card, which does not. It records what is done to it and can be
told to fail: all writes after a number of them, the discard, the resizing or the
closing. An action that fails leaves the device as it was. Data that no memory can
hold is a fault.
-/

import CardFormat.Checked
import CardFormat.Device.Basic

namespace CardFormat

/-- A write that a device has carried out. -/
structure WriteRecord where
  start : Nat
  length : Nat
  deriving Repr, DecidableEq

/-- A device in memory. -/
structure MemoryDevice where
  /-- The bytes written so far; what lies behind them reads as zero. -/
  data : Content
  /-- Size in sectors. -/
  sectors : Nat
  regularFile : Bool
  discardSupported : Bool
  /-- The writes carried out, oldest first. -/
  writes : List WriteRecord
  /-- The discards carried out, oldest first; true for a secure one. -/
  discards : List Bool
  closed : Bool
  /-- Writes that succeed before all others fail. -/
  writeLimit : Option Nat
  discardFailure : Option IoError
  truncateFailure : Option IoError
  closeFailure : Option IoError

namespace MemoryDevice

/-- An image of the given size. -/
def image (sectors : Nat) : MemoryDevice where
  data := .empty
  sectors := sectors
  regularFile := true
  discardSupported := false
  writes := []
  discards := []
  closed := false
  writeLimit := none
  discardFailure := none
  truncateFailure := none
  closeFailure := none

/-- A card of the given size. -/
def card (sectors : Nat) : MemoryDevice :=
  { image sectors with regularFile := false, discardSupported := true }

/-- The bytes at an offset; what was never written is zero. -/
def bytes (device : MemoryDevice) (offset length : Nat) : Content :=
  device.data.window offset length

/-- The device has been written to. -/
def wasWritten (device : MemoryDevice) : Bool := !device.writes.isEmpty

/-- The failure that a write meets before anything happens, if it meets one. -/
def writeFailure (device : MemoryDevice) (start length : Nat) : Option IoError :=
  if length % sectorBytes ≠ 0 then some (.partialSector length)
  else if device.closed then some ⟨.other, "device is closed"⟩
  else if device.writeLimit.any (· ≤ device.writes.length) then
    some ⟨.other, "injected write failure"⟩
  else if !device.regularFile && device.sectors < start + length / sectorBytes then
    some ⟨.unexpectedEof, "write past end of device"⟩
  else none

/-- The device after a write. -/
def written (device : MemoryDevice) (start : Nat) (bytes : Content) : MemoryDevice :=
  { device with
    data := device.data.overwrite (start * sectorBytes) bytes
    writes := device.writes ++ [⟨start, bytes.size⟩]
    sectors :=
      if device.regularFile then max device.sectors (start + bytes.size / sectorBytes)
      else device.sectors }

/-- Memory holds fewer bytes than this. -/
def memoryLimit : Nat := 2 ^ 63

/-- The device, if memory can hold its data. -/
def held (device : MemoryDevice) : Checked MemoryDevice :=
  if device.data.size < memoryLimit then .ok device else .error .outOfRange

/-- The device after a discard. -/
def discarded (device : MemoryDevice) (secure : Bool) : MemoryDevice :=
  { device with data := .empty, discards := device.discards ++ [secure] }

/-- The device with a new size. -/
def truncated (device : MemoryDevice) (sectors : Nat) : MemoryDevice :=
  { device with data := device.data.take (sectors * sectorBytes), sectors := sectors }

/-- The failure that a discard meets, if it meets one. -/
def discardObstacle (device : MemoryDevice) : Option IoError :=
  device.discardFailure <|>
    if device.discardSupported then none else some ⟨.unsupported, "discard not supported"⟩

/-- The failure that resizing meets, if it meets one. -/
def truncateObstacle (device : MemoryDevice) : Option IoError :=
  device.truncateFailure <|>
    if device.regularFile then none else some ⟨.unsupported, "cannot truncate a block device"⟩

/-- Goes to the next device unless something is in the way. -/
def proceed (obstacle : Option IoError) (next : MemoryDevice) : DeviceAction MemoryDevice Unit :=
  fun device =>
    match obstacle with
    | some error => .error error device
    | none => .ok () next

instance : BlockDevice MemoryDevice where
  sectorCount := sectors
  isRegularFile := regularFile
  read device start length := do
    let _ ← wholeSectors length
    return device.bytes (start * sectorBytes) length
  write start bytes := fun device =>
    proceed (device.writeFailure start bytes.size) (device.written start bytes) device
  discard secure := fun device => proceed device.discardObstacle (device.discarded secure) device
  truncate sectors := fun device =>
    proceed device.truncateObstacle (device.truncated sectors) device
  close := fun device => proceed device.closeFailure { device with closed := true } device

end MemoryDevice

end CardFormat
