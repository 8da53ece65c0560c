/-
This file runs the program on the real system: it says how a device is opened and stored
there, and takes the clock and a random number from the system. The format never looks at
the bytes of an image, so the bytes of a large one are not read, and only what the format
has put at its start is written.
-/

import CardFormat.CommandLine.Run
import CardFormat.Serial
import Std.Time.Zoned

open CardFormat

/-- An error of the system. -/
def systemError : IO.Error → IoError
  | .noFileOrDirectory _ _ _ => .noSuchFile
  | .permissionDenied _ _ _ => .system .permissionDenied "Permission denied" 13
  | error => ⟨.other, error.toString⟩

/-- An action of the system, with its error as a value. -/
def attempt {Value : Type} (action : IO Value) : ExceptT IoError IO Value := ExceptT.mk do
  match ← action.toBaseIO with
  | .ok value => return .ok value
  | .error error => return .error (systemError error)

/-- Opens a file, or creates it if it is to be written. -/
def openHandle (path : String) : Access → IO IO.FS.Handle
  | .reading => IO.FS.Handle.mk path .read
  | .writing => do
    try IO.FS.Handle.mk path .readWrite
    catch
      | .noFileOrDirectory _ _ _ => IO.FS.Handle.mk path .writeNew
      | error => throw error

/-- A file that is open, and its size. -/
structure SystemFile where
  handle : IO.FS.Handle
  size : Nat

/-- Opens the file at a path as a device. Only a file without a whole sector is read. -/
def openFile (path : Path) (access : Access) : ExceptT IoError IO (SystemFile × FileDevice) := do
  if path.isProtected then throw .systemDrive
  let handle ← attempt (openHandle path.display access)
  let metadata ← attempt do (← IO.FS.realPath path.display).metadata
  if metadata.type != .file then throw .noSize
  let size := metadata.byteSize.toNat
  let content ←
    if 0 < size && size < sectorBytes then
      let bytes ← attempt (handle.read size.toUSize)
      attempt handle.rewind
      pure (.ofBytes bytes)
    else pure (.zeros size)
  return (⟨handle, size⟩, .ofContent content access)

/-- Writes bytes at the cursor of a file. -/
def writeContent (handle : IO.FS.Handle) (content : Content) : IO Unit := do
  for span in content.spans do
    match span with
    | .packed bytes => handle.write bytes
    | .fill value count =>
      let block := (List.replicate (min count blockBytes) value).toByteArray
      for _ in [0:count / blockBytes] do handle.write block
      handle.write (block.extract 0 (count % blockBytes))

/-- Brings a file to the state of its device, which has new bytes up to the given length.
If the device has grown, all its bytes are known. -/
def storeFile (file : SystemFile) (device : FileDevice) (length : Nat) : IO Unit := do
  let length := if file.size < device.content.size then device.content.size else length
  writeContent file.handle (device.content.take length)
  file.handle.flush

/-- The real system. -/
def realSystem : CommandLine.System IO SystemFile where
  openDevice path access :=
    return (← (openFile path access).run).mapError (.openFailed path.display)
  store file device length := (attempt (storeFile file device length)).run

/-- A random disk signature, and a serial made from the local time. -/
def readSources : IO Sources := do
  let signature ← ExceptT.run <| attempt do
    return UInt32.ofNat (LittleEndian.decode (← IO.getRandomBytes 4).data.toList)
  let now ← Std.Time.DateTime.now
  let seconds := now.timestamp.toSecondsSinceUnixEpoch.val + now.timezone.offset.second.val
  return ⟨signature, volumeSerial (.ofSeconds seconds)⟩

/-- The program on the real system. -/
def main (words : List String) : IO UInt32 := do
  let outcome ← CommandLine.program CommandLine.libraries realSystem (← readSources) words
  IO.print outcome.output
  IO.eprint outcome.errors
  return outcome.exitStatus.toUInt32
