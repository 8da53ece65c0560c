/-
This file holds UTF-8: every character is one to four bytes. Bytes that are no such text
are shown all the same, with a sign in place of each stretch that begins a character and
does not end it, and of each byte that begins none.
-/

namespace CardFormat.Text.Utf8

/-- The bytes of the characters of a text. -/
def encode (characters : List Char) : List UInt8 :=
  characters.flatMap String.utf8EncodeChar

/-- The sign that stands for bytes that are no text. -/
def replacement : Char := '\uFFFD'

/-- The byte can only stand behind others in a character. -/
def isTail (byte : UInt8) : Bool := 0x80 ≤ byte && byte ≤ 0xBF

/-- The two bytes begin a character of three or four bytes. -/
def opensLong (lead second : UInt8) : Bool :=
  isTail second &&
    ((lead == 0xE0 && 0xA0 ≤ second) || (0xE1 ≤ lead && lead ≤ 0xEC) ||
      (lead == 0xED && second ≤ 0x9F) || (0xEE ≤ lead && lead ≤ 0xEF) ||
      (lead == 0xF0 && 0x90 ≤ second) || (0xF1 ≤ lead && lead ≤ 0xF3) ||
      (lead == 0xF4 && second ≤ 0x8F))

/-- How many bytes at the front, where no whole character is, begin one. A byte that begins
none counts as well. -/
def brokenLength : List UInt8 → Nat
  | lead :: second :: rest =>
    if opensLong lead second then
      if 0xF0 ≤ lead && rest.head?.any isTail then 3 else 2
    else 1
  | _ => 1

/-- The whole character at the front, if there is one. -/
def front (bytes : List UInt8) : Option Char := (bytes.take 4).toByteArray.utf8DecodeChar? 0

/-- The characters of the bytes behind the next few. -/
def decodeBehind : (skipped : Nat) → List UInt8 → List Char
  | _, [] => []
  | skipped + 1, _ :: rest => decodeBehind skipped rest
  | 0, byte :: rest =>
    match front (byte :: rest) with
    | some character => character :: decodeBehind (character.utf8Size - 1) rest
    | none => replacement :: decodeBehind (brokenLength (byte :: rest) - 1) rest

/-- The characters that bytes are shown as. -/
def decode (bytes : List UInt8) : List Char := decodeBehind 0 bytes

/-- The bytes of a text. -/
def ofText (text : String) : List UInt8 := encode text.toList

/-- The text that bytes are shown as. -/
def toText (bytes : List UInt8) : String := String.ofList (decode bytes)

end CardFormat.Text.Utf8
