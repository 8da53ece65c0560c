/-
This file opens devices by their paths. Paths that are most likely the system drive
are refused before anything else. Only regular files become devices: of all else the
size in sectors is asked for, and neither a directory nor a stream has one.
-/

import CardFormat.Device.File
import CardFormat.FormatError

namespace CardFormat

namespace IoError

def systemDrive : IoError :=
  ⟨.permissionDenied, "refusing to format what is likely the system drive"⟩

def noSize : IoError := ⟨.uncategorized, "BLKGETSIZE64: ENOTTY: Not a typewriter"⟩

end IoError

/-- How paths start that are refused. -/
def protectedStart : String := "/dev/sda"

/-- The path is most likely the system drive. -/
def Path.isProtected (path : Path) : Bool :=
  (Text.Utf8.ofText protectedStart).isPrefixOf path.bytes

/-- A file that is open as a device, and where it is. -/
structure OpenedFile where
  location : Location
  device : FileDevice

namespace FileTree

/-- Opens the file at a path, and gives its place and its bytes. -/
def openFile (tree : FileTree) (path : Path) (access : Access) :
    Except IoError (Location × Content) := do
  if path.isProtected then .error .systemDrive
  let location ← tree.locate path access
  match ← tree.openAt location access path.endsWithSlash with
  | .file content => return (location, content)
  | _ => .error .noSize

/-- Puts the file of a device back into the tree. -/
def keep (tree : FileTree) (opened : OpenedFile) : FileTree :=
  tree.put opened.location (.file opened.device.content)

/-- Opens the device at a path. A file that is opened for writing is there from then on. -/
def openDevice (tree : FileTree) (path : Path) (access : Access) :
    Except FormatError (OpenedFile × FileTree) :=
  match tree.openFile path access with
  | .error error => .error (.openFailed path.display error)
  | .ok (location, content) =>
    let opened : OpenedFile := ⟨location, .ofContent content access⟩
    .ok (opened, tree.keep opened)

end FileTree

end CardFormat
