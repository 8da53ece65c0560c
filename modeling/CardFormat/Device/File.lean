/-
This file holds a device that is an image in a regular file. The file need not be a
whole number of sectors long; what is behind the last whole sector can be overwritten
and not read. A write past the end extends the file, with zeros before it. The size in
sectors is remembered from when the file was opened, and moves with the writes and
with resizing. A sector whose byte offset leaves 64 bits is a fault, unless the call
is refused before the offset is needed.
-/

import CardFormat.Checked
import CardFormat.Device.Basic
import CardFormat.Files.Path

namespace CardFormat

namespace IoError

def alreadyClosed : IoError := ⟨.other, "device already closed"⟩

def invalidArgument : IoError := system .invalidInput "Invalid argument" 22

def badDescriptor : IoError := system .uncategorized "Bad file descriptor" 9

def endOfFile : IoError := ⟨.unexpectedEof, "failed to fill whole buffer"⟩

def imageWithoutDiscard : IoError := ⟨.unsupported, "discard is not supported on image files"⟩

def lengthTooLarge : IoError := ⟨.invalidInput, "number too large to fit in target type"⟩

end IoError

/-- Offsets in a file, the ends of transfers and lengths of files are below this. -/
def fileOffsetLimit : Nat := 2 ^ 63

/-- An image in a regular file that is open, or was. -/
structure FileDevice where
  /-- The bytes of the file. -/
  content : Content
  /-- Size in sectors, as far as the device knows. -/
  sectors : Nat
  access : Access
  closed : Bool

namespace FileDevice

/-- The device of a file that has just been opened. -/
def ofContent (content : Content) (access : Access) : FileDevice where
  content := content
  sectors := content.size / sectorBytes
  access := access
  closed := false

/-- The byte offset of a sector, which the device needs as long as it is open. -/
def byteOffset (device : FileDevice) (sector : Nat) : Attempt IoError Nat :=
  if device.closed then Attempt.refuse .alreadyClosed
  else Checked.word64 (sector * sectorBytes)

/-- Goes to a sector of the file. -/
def seek (device : FileDevice) (start : Nat) : Attempt IoError Nat := do
  let offset ← device.byteOffset start
  if fileOffsetLimit ≤ offset then Attempt.refuse .invalidArgument else return offset

/-- The bytes from a sector on. -/
def readAt (device : FileDevice) (start length : Nat) : Attempt IoError Content := do
  let _ ← (wholeSectors length).mapError Failure.refused
  let offset ← device.seek start
  if length = 0 then return .empty
  else if fileOffsetLimit ≤ offset + length then Attempt.refuse .invalidArgument
  else if device.content.size < offset + length then Attempt.refuse .endOfFile
  else return device.content.slice offset length

/-- The file after bytes were put at an offset. Putting nothing does not extend it. -/
def contentAfter (device : FileDevice) (offset : Nat) (bytes : Content) :
    Attempt IoError Content :=
  if bytes.size = 0 then .ok device.content
  else if device.access = .reading then Attempt.refuse .badDescriptor
  else if fileOffsetLimit ≤ offset + bytes.size then Attempt.refuse .invalidArgument
  else .ok (device.content.overwrite offset bytes)

/-- The device after a write. -/
def writeAt (device : FileDevice) (start : Nat) (bytes : Content) :
    Attempt IoError FileDevice := do
  let count ← (wholeSectors bytes.size).mapError Failure.refused
  let offset ← device.seek start
  let content ← device.contentAfter offset bytes
  return { device with content, sectors := max device.sectors (start + count) }

/-- The device after resizing. -/
def resized (device : FileDevice) (sectors : Nat) : Attempt IoError FileDevice := do
  let length ← device.byteOffset sectors
  if fileOffsetLimit ≤ length then Attempt.refuse .lengthTooLarge
  else if device.access = .reading then Attempt.refuse .invalidArgument
  else return { device with content := device.content.resize length, sectors }

/-- What is heard of a failure where only errors are known. Of a fault nothing is heard: it ends
the program. The sectors of a card are far below those with such an offset. -/
def heard : Failure IoError → IoError
  | .refused error => error
  | .fault _ => .invalidArgument

/-- Goes to the next device, if there is one. -/
def goTo (next : FileDevice → Attempt IoError FileDevice) : DeviceAction FileDevice Unit :=
  fun device =>
    match next device with
    | .ok next => .ok () next
    | .error failure => .error (heard failure) device

instance : BlockDevice FileDevice where
  sectorCount := sectors
  isRegularFile _ := true
  read device start length := (device.readAt start length).mapError heard
  write start bytes := goTo fun device => device.writeAt start bytes
  discard _ := goTo fun _ => Attempt.refuse .imageWithoutDiscard
  truncate sectors := goTo fun device => device.resized sectors
  close := goTo fun device => .ok { device with closed := true }

end FileDevice

end CardFormat
