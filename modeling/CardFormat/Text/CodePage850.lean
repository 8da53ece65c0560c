/-
This file holds code page 850, in which FAT labels are stored. The lower half is
ASCII; the upper half is a table of 128 characters, all different and none of
them ASCII, so that every byte stands for one character and is read back from it.
-/

namespace CardFormat.Text.CodePage850

/-- The code points of the bytes 0x80 to 0xFF. -/
def upperHalf : List Nat :=
  [0x00C7, 0x00FC, 0x00E9, 0x00E2, 0x00E4, 0x00E0, 0x00E5, 0x00E7,
    0x00EA, 0x00EB, 0x00E8, 0x00EF, 0x00EE, 0x00EC, 0x00C4, 0x00C5,
    0x00C9, 0x00E6, 0x00C6, 0x00F4, 0x00F6, 0x00F2, 0x00FB, 0x00F9,
    0x00FF, 0x00D6, 0x00DC, 0x00F8, 0x00A3, 0x00D8, 0x00D7, 0x0192,
    0x00E1, 0x00ED, 0x00F3, 0x00FA, 0x00F1, 0x00D1, 0x00AA, 0x00BA,
    0x00BF, 0x00AE, 0x00AC, 0x00BD, 0x00BC, 0x00A1, 0x00AB, 0x00BB,
    0x2591, 0x2592, 0x2593, 0x2502, 0x2524, 0x00C1, 0x00C2, 0x00C0,
    0x00A9, 0x2563, 0x2551, 0x2557, 0x255D, 0x00A2, 0x00A5, 0x2510,
    0x2514, 0x2534, 0x252C, 0x251C, 0x2500, 0x253C, 0x00E3, 0x00C3,
    0x255A, 0x2554, 0x2569, 0x2566, 0x2560, 0x2550, 0x256C, 0x00A4,
    0x00F0, 0x00D0, 0x00CA, 0x00CB, 0x00C8, 0x0131, 0x00CD, 0x00CE,
    0x00CF, 0x2518, 0x250C, 0x2588, 0x2584, 0x00A6, 0x00CC, 0x2580,
    0x00D3, 0x00DF, 0x00D4, 0x00D2, 0x00F5, 0x00D5, 0x00B5, 0x00FE,
    0x00DE, 0x00DA, 0x00DB, 0x00D9, 0x00FD, 0x00DD, 0x00AF, 0x00B4,
    0x00AD, 0x00B1, 0x2017, 0x00BE, 0x00B6, 0x00A7, 0x00F7, 0x00B8,
    0x00B0, 0x00A8, 0x00B7, 0x00B9, 0x00B3, 0x00B2, 0x25A0, 0x00A0]

/-- The byte of a character, if the code page has it. -/
def encode (character : Char) : Option UInt8 :=
  if character.toNat < 0x80 then some (UInt8.ofNat character.toNat)
  else (upperHalf.findIdx? (· == character.toNat)).map fun index => UInt8.ofNat (0x80 + index)

/-- The character of a byte. -/
def decode (byte : UInt8) : Char :=
  if byte < 0x80 then Char.ofNat byte.toNat
  else Char.ofNat (upperHalf.getD (byte.toNat - 0x80) 0)

/-! ### The table -/

theorem length_upperHalf : upperHalf.length = 128 := by decide +kernel

theorem nodup_upperHalf : upperHalf.Nodup := by decide +kernel

theorem upperHalf_beyond_ascii : ∀ code ∈ upperHalf, 0x80 ≤ code ∧ code < 0xD800 := by decide +kernel

end CardFormat.Text.CodePage850
