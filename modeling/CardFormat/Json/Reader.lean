/-
This file reads JSON text from the front. Each reader takes the characters that are
left and gives what it read and the characters after it, or nothing if the text is
not what it should be. Values that nobody asked for are passed over; their strings
may hold surrogates outside a pair, which a text that is read may not.
-/

import CardFormat.Numbers
import CardFormat.Text.Utf16

namespace CardFormat.JsonReader

/-- Reads a value from the front of a text. -/
abbrev Reader (Value : Type) := List Char → Option (Value × List Char)

/-- Passes over blanks. -/
def skipSpace (characters : List Char) : List Char :=
  characters.dropWhile fun character =>
    character = ' ' || character = '\t' || character = '\n' || character = '\r'

/-- Passes over one expected character, after blanks. -/
def expect (expected : Char) (characters : List Char) : Option (List Char) :=
  match skipSpace characters with
  | character :: rest => if character = expected then some rest else none
  | [] => none

/-- Passes over an expected word, after blanks. -/
def expectWord (word : String) (characters : List Char) : Option (List Char) :=
  let characters := skipSpace characters
  if word.toList.isPrefixOf characters then some (characters.drop word.toList.length) else none

/-! ### Numbers -/

/-- Passes over one or more digits. -/
def skipDigits (characters : List Char) : Option (List Char) :=
  match characters with
  | character :: rest => if character.isDigit then some (rest.dropWhile Char.isDigit) else none
  | [] => none

/-- Passes over the digits of a whole number, which has no needless zero in front. -/
def skipWhole (characters : List Char) : Option (List Char) :=
  match characters with
  | '0' :: rest => if (rest.head?.map Char.isDigit).getD false then none else some rest
  | _ => skipDigits characters

/-- Passes over the digits after a decimal point, if there is one. -/
def skipFraction (characters : List Char) : Option (List Char) :=
  match characters with
  | '.' :: rest => skipDigits rest
  | _ => some characters

/-- Passes over an exponent, if there is one. -/
def skipExponent (characters : List Char) : Option (List Char) :=
  match characters with
  | mark :: rest =>
    if mark = 'e' || mark = 'E' then
      match rest with
      | '+' :: digits => skipDigits digits
      | '-' :: digits => skipDigits digits
      | _ => skipDigits rest
    else some characters
  | [] => some characters

/-- Passes over a number. -/
def skipNumber (characters : List Char) : Option (List Char) := do
  let unsigned := match characters with
    | '-' :: rest => rest
    | _ => characters
  skipExponent (← skipFraction (← skipWhole unsigned))

/-- Reads a natural number below 2^64, written without sign, point or exponent. -/
def readNatural : Reader Nat := fun characters => do
  let characters := skipSpace characters
  let rest ← skipWhole characters
  let digits := characters.take (characters.length - rest.length)
  let value := digits.foldl (fun value digit => 10 * value + (digit.toNat - '0'.toNat)) 0
  if (← skipNumber characters).length = rest.length ∧ value < 2 ^ 64 then some (value, rest)
  else none

/-! ### Strings -/

/-- The value of a hexadecimal digit. -/
def hexValue (character : Char) : Option Nat :=
  if character.isDigit then some (character.toNat - '0'.toNat)
  else if 'a' ≤ character ∧ character ≤ 'f' then some (character.toNat - 'a'.toNat + 10)
  else if 'A' ≤ character ∧ character ≤ 'F' then some (character.toNat - 'A'.toNat + 10)
  else none

/-- Reads four hexadecimal digits. -/
def readUnit : Reader Nat
  | first :: second :: third :: fourth :: rest => do
    let value := 4096 * (← hexValue first) + 256 * (← hexValue second) + 16 * (← hexValue third) +
      (← hexValue fourth)
    some (value, rest)
  | _ => none

/-- What a backslash and a letter stand for. -/
def shortEscape (letter : Char) : Option Char :=
  match letter with
  | '"' => some '"'
  | '\\' => some '\\'
  | '/' => some '/'
  | 'b' => some '\x08'
  | 'f' => some '\x0c'
  | 'n' => some '\n'
  | 'r' => some '\r'
  | 't' => some '\t'
  | _ => none

/-- A piece of a string: a character, or a code unit that was written as such. -/
inductive Piece where
  | character (value : Char)
  | unit (value : Nat)

/-- The pieces of a string up to its closing quote. -/
def readPieces (pieces : List Piece) : (fuel : Nat) → Reader (List Piece)
  | 0, _ => none
  | _ + 1, '"' :: rest => some (pieces.reverse, rest)
  | fuel + 1, '\\' :: 'u' :: rest => do
    let (unit, rest) ← readUnit rest
    readPieces (.unit unit :: pieces) fuel rest
  | fuel + 1, '\\' :: letter :: rest => do
    readPieces (.character (← shortEscape letter) :: pieces) fuel rest
  | fuel + 1, character :: rest =>
    if character.toNat < 0x20 then none
    else readPieces (.character character :: pieces) fuel rest
  | _ + 1, [] => none

/-- Joins the pieces to characters; surrogates have to come in pairs. -/
def joinPieces : List Piece → Option (List Char)
  | [] => some []
  | .character value :: rest => (joinPieces rest).map (value :: ·)
  | .unit value :: rest =>
    if 0xD800 ≤ value ∧ value < 0xDC00 then
      match rest with
      | .unit trail :: rest =>
        if 0xDC00 ≤ trail ∧ trail < 0xE000 then
          (joinPieces rest).map (Char.ofNat (Text.Utf16.pairCode value trail) :: ·)
        else none
      | _ => none
    else if 0xDC00 ≤ value ∧ value < 0xE000 then none
    else (joinPieces rest).map (Char.ofNat value :: ·)

/-- Reads a string. -/
def readText : Reader String := fun characters => do
  let rest ← expect '"' characters
  let (pieces, rest) ← readPieces [] (rest.length + 1) rest
  some (String.ofList (← joinPieces pieces), rest)

/-- Passes over a string. -/
def skipText (characters : List Char) : Option (List Char) := do
  let rest ← expect '"' characters
  let (_, rest) ← readPieces [] (rest.length + 1) rest
  some rest

/-! ### Values -/

/-- Reads a truth value. -/
def readBool : Reader Bool := fun characters =>
  match expectWord "true" characters with
  | some rest => some (true, rest)
  | none => (expectWord "false" characters).map (false, ·)

/-- Reads null or a value. -/
def readOptional {Value : Type} (read : Reader Value) : Reader (Option Value) := fun characters =>
  match skipSpace characters with
  | 'n' :: _ => (expectWord "null" characters).map (none, ·)
  | _ => (read characters).map fun (value, rest) => (some value, rest)

mutual

/-- Passes over a value. -/
def skipValue : (fuel : Nat) → List Char → Option (List Char)
  | 0, _ => none
  | fuel + 1, characters =>
    match skipSpace characters with
    | 'n' :: _ => expectWord "null" characters
    | 't' :: _ => expectWord "true" characters
    | 'f' :: _ => expectWord "false" characters
    | '"' :: _ => skipText characters
    | '[' :: rest =>
      match skipSpace rest with
      | ']' :: rest => some rest
      | rest => skipItems fuel rest
    | '\x7b' :: rest =>
      match skipSpace rest with
      | '\x7d' :: rest => some rest
      | rest => skipMembers fuel rest
    | rest => skipNumber rest

/-- Passes over the items of an array, up to and with its end. -/
def skipItems : (fuel : Nat) → List Char → Option (List Char)
  | 0, _ => none
  | fuel + 1, characters =>
    match skipValue fuel characters with
    | none => none
    | some rest =>
      match skipSpace rest with
      | ',' :: rest => skipItems fuel rest
      | ']' :: rest => some rest
      | _ => none

/-- Passes over the members of an object, up to and with its end. -/
def skipMembers : (fuel : Nat) → List Char → Option (List Char)
  | 0, _ => none
  | fuel + 1, characters =>
    match (skipText characters).bind (expect ':') with
    | none => none
    | some value =>
      match skipValue fuel value with
      | none => none
      | some rest =>
        match skipSpace rest with
        | ',' :: rest => skipMembers fuel rest
        | '\x7d' :: rest => some rest
        | _ => none

end

/-- Passes over any value. -/
def skipAny (characters : List Char) : Option (List Char) :=
  skipValue (characters.length + 1) characters

end CardFormat.JsonReader
