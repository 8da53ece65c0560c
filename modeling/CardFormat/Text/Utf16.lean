/-
This file holds UTF-16: a character below 0x10000 is one unit, any other is a
surrogate pair. Reading undoes writing, and refuses units that are no such text.
-/

namespace CardFormat.Text.Utf16

/-- The units of one character. -/
def encodeCharacter (character : Char) : List UInt16 :=
  if character.toNat < 0x10000 then [UInt16.ofNat character.toNat]
  else
    let offset := character.toNat - 0x10000
    [UInt16.ofNat (0xD800 + offset / 0x400), UInt16.ofNat (0xDC00 + offset % 0x400)]

/-- The units of a text. -/
def encode (characters : List Char) : List UInt16 :=
  characters.flatMap encodeCharacter

/-- The unit opens a surrogate pair. -/
def isLead (unit : UInt16) : Bool := 0xD800 ≤ unit.toNat && unit.toNat < 0xDC00

/-- The unit closes a surrogate pair. -/
def isTrail (unit : UInt16) : Bool := 0xDC00 ≤ unit.toNat && unit.toNat < 0xE000

/-- The code point of a surrogate pair. -/
def pairCode (lead trail : Nat) : Nat :=
  0x10000 + (lead - 0xD800) * 0x400 + (trail - 0xDC00)

/-- The text of the units; a surrogate outside a pair has none. -/
def decode : List UInt16 → Option (List Char)
  | [] => some []
  | unit :: rest =>
    if isLead unit then
      match rest with
      | trail :: rest =>
        if isTrail trail then
          (decode rest).map (Char.ofNat (pairCode unit.toNat trail.toNat) :: ·)
        else none
      | [] => none
    else if isTrail unit then none
    else (decode rest).map (Char.ofNat unit.toNat :: ·)

end CardFormat.Text.Utf16
