/-
This file holds JSON values and the form in which they are written for people: two
spaces of indentation for each level, one item a line, and members in the order
they were given.
-/

namespace CardFormat

/-- A JSON value with natural numbers. -/
inductive JsonValue where
  | null
  | bool (value : Bool)
  | number (value : Nat)
  | string (text : String)
  | array (items : List JsonValue)
  | object (members : List (String × JsonValue))

namespace JsonValue

/-- One of two values. -/
def ofOption {Value : Type} (encode : Value → JsonValue) : Option Value → JsonValue
  | none => .null
  | some value => encode value

/-- The hexadecimal digit of a number below sixteen. -/
def digit (value : Nat) : Char := Nat.digitChar value

/-- A character as it stands inside a string. -/
def escape (character : Char) : String :=
  if character = '"' then "\\\""
  else if character = '\\' then "\\\\"
  else if character = '\x08' then "\\b"
  else if character = '\x0c' then "\\f"
  else if character = '\n' then "\\n"
  else if character = '\r' then "\\r"
  else if character = '\t' then "\\t"
  else if character.toNat < 0x20 then
    "\\u00" ++ String.ofList [digit (character.toNat / 16), digit (character.toNat % 16)]
  else String.singleton character

/-- A text as a JSON string. -/
def quote (text : String) : String :=
  "\"" ++ String.join (text.toList.map escape) ++ "\""

/-- A line break and the indentation of a level. -/
def newline (level : Nat) : String :=
  "\n" ++ String.ofList (List.replicate (2 * level) ' ')

mutual

/-- The text of a value at a level. -/
def pretty (level : Nat) : JsonValue → String
  | .null => "null"
  | .bool value => if value then "true" else "false"
  | .number value => toString value
  | .string text => quote text
  | .array [] => "[]"
  | .array (item :: items) =>
    "[" ++ newline (level + 1) ++ pretty (level + 1) item ++ prettyItems (level + 1) items ++
      newline level ++ "]"
  | .object [] => "\x7b\x7d"
  | .object ((name, value) :: members) =>
    "\x7b" ++ newline (level + 1) ++ quote name ++ ": " ++ pretty (level + 1) value ++
      prettyMembers (level + 1) members ++ newline level ++ "\x7d"

/-- The text of the items behind the first. -/
def prettyItems (level : Nat) : List JsonValue → String
  | [] => ""
  | item :: items => "," ++ newline level ++ pretty level item ++ prettyItems level items

/-- The text of the members behind the first. -/
def prettyMembers (level : Nat) : List (String × JsonValue) → String
  | [] => ""
  | (name, value) :: members =>
    "," ++ newline level ++ quote name ++ ": " ++ pretty level value ++
      prettyMembers level members

end

/-- The text of a value. -/
def text (value : JsonValue) : String := value.pretty 0

end JsonValue

end CardFormat
