/-
This file holds the quoted form in which messages show a label or a character.
The quote in use and the backslash are preceded by a backslash, five control
characters have short names, and whatever is not shown as itself is written by
its code point in hexadecimal digits.
-/

import CardFormat.Text.Printable

namespace CardFormat.Text

/-- A number in lowercase hexadecimal digits, without leading zeros. -/
def hexadecimal (value : Nat) : String :=
  String.ofList (Nat.toDigits 16 value)

/-- A number in uppercase hexadecimal digits, filled up with zeros to a width. -/
def paddedHexadecimal (width value : Nat) : String :=
  let digits := (Nat.toDigits 16 value).map Char.toUpper
  String.ofList (List.replicate (width - digits.length) '0' ++ digits)

/-- A character by its code point. -/
def codePointEscape (character : Char) : String :=
  "\\u\x7b" ++ hexadecimal character.toNat ++ "\x7d"

/-- A character as it stands between quotes of the given kind. -/
def quotedCharacter (quote character : Char) : String :=
  if character = '\x00' then "\\0"
  else if character = '\t' then "\\t"
  else if character = '\r' then "\\r"
  else if character = '\n' then "\\n"
  else if character = '\\' then "\\\\"
  else if character = quote then String.ofList ['\\', quote]
  else if isPrintable character then String.singleton character
  else codePointEscape character

/-- A text in double quotes. -/
def quotedText (text : String) : String :=
  "\"" ++ String.join (text.toList.map (quotedCharacter '"')) ++ "\""

/-- A character in single quotes. -/
def quotedChar (character : Char) : String :=
  "'" ++ quotedCharacter '\'' character ++ "'"

end CardFormat.Text
