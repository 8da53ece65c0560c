/-
This file holds volume labels. A FAT label is stored in code page 850 and padded
with spaces to eleven bytes; which characters it may have is settled here. An exFAT
label is stored in UTF-16 and may have any characters, but no more than eleven
units of them. The empty label stands for no label. A text is checked character after
character, and when it has passed, there may be a warning.
-/

import CardFormat.FormatError
import CardFormat.Text.CodePage850
import CardFormat.Text.Lowercase
import CardFormat.Text.Utf16

namespace CardFormat

/-! ### FAT labels -/

/-- A FAT label: its text, and the bytes that stand for it. -/
structure FatLabel where
  text : String
  encoded : List UInt8
  within_limit : encoded.length ≤ labelLimit

/-- The bytes no label may have: the control characters and `" * + , . / : ; < = > ? [ \ ] |`. -/
def isForbiddenByte (byte : UInt8) : Bool :=
  byte < 0x20 || byte == 0x7F || (0x3A ≤ byte && byte ≤ 0x3F) || (0x5B ≤ byte && byte ≤ 0x5D) ||
    [0x22, 0x2A, 0x2B, 0x2C, 0x2E, 0x2F, 0x7C].contains byte

/-- A lowercase ASCII letter. Outside ASCII, systems disagree on capital letters, so
lowercase letters are refused there and tolerated here. -/
def isAsciiLowercase (character : Char) : Bool :=
  'a' ≤ character && character ≤ 'z'

/-- The byte of one character of a FAT label. -/
def encodeLabelCharacter (character : Char) : Except LabelObjection UInt8 :=
  if 0x80 ≤ character.toNat && Text.isLowercase character then .error (.lowercase character)
  else match Text.CodePage850.encode character with
    | none => .error (.outsideCodePage character)
    | some byte => if isForbiddenByte byte then .error (.forbidden character) else .ok byte

/-- The bytes of the characters of a FAT label, or the first objection. -/
def encodeLabelCharacters : List Char → Except LabelObjection (List UInt8)
  | [] => .ok []
  | character :: rest => do
    let byte ← encodeLabelCharacter character
    let bytes ← encodeLabelCharacters rest
    return byte :: bytes

theorem length_encodeLabelCharacters {characters : List Char} {bytes : List UInt8}
    (accepted : encodeLabelCharacters characters = .ok bytes) :
    bytes.length = characters.length := by
  induction characters generalizing bytes with
  | nil =>
    cases accepted
    rfl
  | cons character rest inductionHypothesis =>
    rw [encodeLabelCharacters] at accepted
    cases first : encodeLabelCharacter character with
    | error objection =>
      rw [first] at accepted
      cases accepted
    | ok byte =>
      cases others : encodeLabelCharacters rest with
      | error objection =>
        rw [first, others] at accepted
        cases accepted
      | ok tail =>
        rw [first, others] at accepted
        cases accepted
        simp [inductionHypothesis others]

namespace FatLabel

/-- The label of a text, or the objection to it. -/
def ofText (text : String) : Except LabelObjection FatLabel :=
  if long : labelLimit < text.toList.length then .error (.tooManyCharacters text.toList.length)
  else if text.toList.head? = some ' ' then .error .leadingSpace
  else match accepted : encodeLabelCharacters text.toList with
    | .error objection => .error objection
    | .ok bytes => .ok ⟨text, bytes, by rw [length_encodeLabelCharacters accepted]; omega⟩

/-- There is no label. -/
def isEmpty (label : FatLabel) : Bool := label.encoded.isEmpty

/-- What is worth saying about the label. -/
def warnings (label : FatLabel) : List Warning :=
  if label.text.toList.any isAsciiLowercase then [.lowercaseLabel label.text] else []

/-- The bytes, padded with spaces to the full length. -/
def padded (label : FatLabel) : Vector UInt8 labelLimit :=
  ⟨(label.encoded ++ List.replicate (labelLimit - label.encoded.length) 0x20).toArray, by
    have := label.within_limit
    simp only [List.size_toArray, List.length_append, List.length_replicate]
    omega⟩

/-- What the boot sector of a volume without a label says: `NO NAME`, padded. -/
def absent : Vector UInt8 labelLimit :=
  ⟨#[0x4E, 0x4F, 0x20, 0x4E, 0x41, 0x4D, 0x45, 0x20, 0x20, 0x20, 0x20], rfl⟩

/-- The label as the boot sector has it. -/
def bootField (label : FatLabel) : Vector UInt8 labelLimit :=
  if label.isEmpty then absent else label.padded

/-- The label as the root directory has it; without a label there is no entry. A
first byte 0xE5 would mark a free entry, and is stored as 0x05. -/
def entryName (label : FatLabel) : Option (Vector UInt8 labelLimit) :=
  if label.isEmpty then none
  else some (if label.padded.get ⟨0, by decide⟩ = 0xE5 then label.padded.set 0 0x05 (by decide)
    else label.padded)

end FatLabel

/-! ### exFAT labels -/

/-- An exFAT label: its text, and the units that stand for it. -/
structure ExFatLabel where
  text : String
  units : List UInt16
  within_limit : units.length ≤ labelLimit

/-- The label of a text, or the objection to it. -/
def ExFatLabel.ofText (text : String) : Except LabelObjection ExFatLabel :=
  if long : labelLimit < (Text.Utf16.encode text.toList).length then
    .error (.tooManyUnits (Text.Utf16.encode text.toList).length)
  else .ok ⟨text, Text.Utf16.encode text.toList, by omega⟩

/-! ### Labels for a filesystem -/

/-- A label in the form its filesystem stores. -/
inductive Label where
  | fat (label : FatLabel)
  | exFat (label : ExFatLabel)

namespace Label

/-- The label of a text for a filesystem; no text is the empty label. -/
def forFilesystem (filesystem : Filesystem) (text : Option String) : Except FormatError Label :=
  let text := text.getD ""
  let refuse (objection : LabelObjection) : FormatError := .invalidArgument (.label text objection)
  match filesystem with
  | .exFat => (ExFatLabel.ofText text).mapError refuse |>.map .exFat
  | _ => (FatLabel.ofText text).mapError refuse |>.map .fat

/-- The text as it was given. -/
def text : Label → String
  | .fat label => label.text
  | .exFat label => label.text

/-- What is worth saying about the label. -/
def warnings : Label → List Warning
  | .fat label => label.warnings
  | .exFat _ => []

end Label

/-! ### Labels with their warnings -/

/-- What may be refused, and gives warnings on its way. What was given before a refusal
stands. -/
abbrev Noting (Cause Value : Type) := EStateM Cause (List Warning) Value

/-- Gives a warning. -/
def Noting.give {Cause : Type} (warning : Warning) : Noting Cause Unit :=
  modify (· ++ [warning])

namespace FatLabel

/-- The bytes of characters, checked one after the other, and whether a lowercase letter of
ASCII has come up. -/
def encodeNoting : (characters : List Char) → (lowercase : Bool) →
    Noting LabelObjection ({ bytes : List UInt8 // bytes.length = characters.length } × Bool)
  | [], lowercase => return (⟨[], rfl⟩, lowercase)
  | character :: rest, lowercase => do
    let byte ← MonadExcept.ofExcept (encodeLabelCharacter character)
    let (⟨bytes, length_eq⟩, lowercase) ←
      encodeNoting rest (lowercase || isAsciiLowercase character)
    return (⟨byte :: bytes, congrArg Nat.succ length_eq⟩, lowercase)

/-- Takes a text as the label. The warning comes when the whole text has passed. -/
def accept (text : String) : Noting LabelObjection FatLabel :=
  if long : labelLimit < text.toList.length then throw (.tooManyCharacters text.toList.length)
  else if text.toList.head? = some ' ' then throw .leadingSpace
  else do
    let (⟨bytes, length_eq⟩, lowercase) ← encodeNoting text.toList false
    if lowercase then Noting.give (.lowercaseLabel text)
    return ⟨text, bytes, by omega⟩

end FatLabel

/-- Takes a text as the label for a filesystem; no text is the empty label. -/
def Label.accept (filesystem : Filesystem) (text : Option String) : Noting FormatError Label :=
  let text := text.getD ""
  let refuse (objection : LabelObjection) : FormatError := .invalidArgument (.label text objection)
  match filesystem with
  | .exFat =>
    (MonadExcept.ofExcept (ExFatLabel.ofText text) : Noting LabelObjection ExFatLabel).adaptExcept
      refuse >>= fun label => return .exFat label
  | _ => (FatLabel.accept text).adaptExcept refuse >>= fun label => return .fat label

end CardFormat
