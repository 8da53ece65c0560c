/-
This file finds files by their paths. A path names a way through directories: from
the root if it starts with a slash, else from the working directory. It is bytes, as
its names are. All names but the last have to lead into directories. A file that is
opened for writing is created if it does not exist. A slash at the end of a path says
that a directory is meant, so a path that is opened for writing must not end in one:
that is seen before the last name is looked up, but after all other names.
-/

import CardFormat.Files.Tree
import CardFormat.IoError

namespace CardFormat

/-- What a file is opened for. -/
inductive Access where
  | reading
  | writing
  deriving Repr, DecidableEq

namespace IoError

def noSuchFile : IoError := system .notFound "No such file or directory" 2

def notDirectory : IoError := system .notADirectory "Not a directory" 20

def isDirectory : IoError := system .isADirectory "Is a directory" 21

def nameTooLong : IoError := system .invalidFilename "File name too long" 36

def nulInName : IoError := ⟨.invalidInput, "file name contained an unexpected NUL byte"⟩

end IoError

/-- The most bytes a name has. -/
def nameLimit : Nat := 255

/-- The most bytes a path has. -/
def pathLimit : Nat := 4095

/-- The byte between names: a slash. -/
def slash : UInt8 := 0x2F

/-- The names between slashes, for the bytes of a path behind the start of a name.
Several slashes are as one. -/
def namesAfter (name : FileName) : List UInt8 → List FileName
  | [] => if name.isEmpty then [] else [name]
  | byte :: rest =>
    if byte = slash then
      if name.isEmpty then namesAfter [] rest else name :: namesAfter [] rest
    else namesAfter (name ++ [byte]) rest

/-- A path, as the system takes it. -/
structure Path where
  bytes : List UInt8
  deriving Repr, DecidableEq

namespace Path

/-- The path of a text. -/
def ofText (text : String) : Path := ⟨Text.Utf8.ofText text⟩

instance : Coe String Path := ⟨ofText⟩

/-- The path as it is shown. -/
def display (path : Path) : String := Text.Utf8.toText path.bytes

/-- The names of a path. -/
def names (path : Path) : List FileName := namesAfter [] path.bytes

/-- The path starts at the root. -/
def isAbsolute (path : Path) : Bool := path.bytes.head? == some slash

/-- The path says that it names a directory. -/
def endsWithSlash (path : Path) : Bool := path.bytes.getLast? == some slash

end Path

namespace FileTree

/-- The name of a directory in itself: a dot. -/
def sameDirectory : FileName := [0x2E]

/-- The name of the directory above: two dots. -/
def directoryAbove : FileName := [0x2E, 0x2E]

/-- The name leads to the same directory or to the one above, and to nothing new. -/
def isDots (name : FileName) : Bool := name == sameDirectory || name == directoryAbove

/-- The place that a name leads to from a directory. -/
def step (position : Location) (name : FileName) : Except IoError Location :=
  if name = sameDirectory then .ok position
  else if name = directoryAbove then .ok position.dropLast
  else if nameLimit < name.length then .error .nameTooLong
  else .ok (position ++ [name])

/-- The place that the last name of a path leads to. A file that is created when it is
missing is not named as a directory, whatever the name is. -/
def lastStep (access : Access) (asDirectory : Bool) (position : Location) (name : FileName) :
    Except IoError Location :=
  if access = .writing ∧ asDirectory ∧ ¬ isDots name then .error .isDirectory
  else step position name

/-- The place that names lead to from a directory. Nothing needs to be there. -/
def follow (tree : FileTree) (access : Access) (asDirectory : Bool) (position : Location) :
    List FileName → Except IoError Location
  | [] => .ok position
  | [name] => lastStep access asDirectory position name
  | name :: rest => do
    let next ← step position name
    match tree.lookup next with
    | some .directory => tree.follow access asDirectory next rest
    | some _ => .error .notDirectory
    | none => .error .noSuchFile

/-- The place that a path leads to. -/
def locate (tree : FileTree) (path : Path) (access : Access) : Except IoError Location :=
  if path.bytes.contains 0 then .error .nulInName
  else if path.bytes.isEmpty then .error .noSuchFile
  else if pathLimit < path.bytes.length then .error .nameTooLong
  else
    let start := if path.isAbsolute then [] else tree.current
    tree.follow access path.endsWithSlash start path.names

/-- What opening something that exists gives, or why it cannot be opened. -/
def openExisting (access : Access) (asDirectory : Bool) : FileEntry → Except IoError FileEntry
  | .directory =>
    match access with
    | .reading => .ok .directory
    | .writing => .error .isDirectory
  | entry => if asDirectory then .error .notDirectory else .ok entry

/-- What opening a place where nothing is gives: for writing a new file. -/
def openMissing : Access → Except IoError FileEntry
  | .reading => .error .noSuchFile
  | .writing => .ok (.file .empty)

/-- What opening a place gives. -/
def openAt (tree : FileTree) (location : Location) (access : Access) (asDirectory : Bool) :
    Except IoError FileEntry :=
  match tree.lookup location with
  | some entry => openExisting access asDirectory entry
  | none => openMissing access

end FileTree

end CardFormat
