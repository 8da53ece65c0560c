/-
This file holds the errors of devices and files: a kind, by which a caller decides
what to do, and a text for people.
-/

namespace CardFormat

/-- What sort of thing went wrong on a device or a file. -/
inductive IoErrorKind where
  | other
  | unsupported
  | permissionDenied
  | invalidInput
  | unexpectedEof
  | notFound
  | isADirectory
  | notADirectory
  | invalidFilename
  | uncategorized
  deriving Repr, DecidableEq

/-- An error of a device or a file. -/
structure IoError where
  kind : IoErrorKind
  message : String
  deriving Repr, DecidableEq

namespace IoError

/-- A transfer whose length is not a whole number of sectors. -/
def partialSector (length : Nat) : IoError :=
  ⟨.invalidInput, s!"buffer length {length} is not a multiple of 512"⟩

/-- An error that the operating system reports by number. -/
def system (kind : IoErrorKind) (text : String) (number : Nat) : IoError :=
  ⟨kind, s!"{text} (os error {number})"⟩

end IoError

end CardFormat
