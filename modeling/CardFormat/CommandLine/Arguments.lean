/-
This file reads the arguments of the program. Words are taken from left to right, and
the first that cannot be taken, or that asks for help or the version, ends the
reading. Options come in a short and a long form; short ones can share a word, and a
value follows its option in the same word or in the next. No option but the one for
more output may be repeated, and after two dashes all words are operands.
-/

import CardFormat.Files.Path
import CardFormat.Format.Options

namespace CardFormat.CommandLine

/-- Options without a value. -/
inductive Switch where
  | forceFat32
  | bigClusters
  | dryRun
  | json
  | verbose
  | help
  | version
  deriving Repr, DecidableEq

/-- Options with a value. -/
inductive Setting where
  | capacity
  | erase
  | label
  deriving Repr, DecidableEq

/-- An option. -/
inductive Flag where
  | switch (switch : Switch)
  | setting (setting : Setting)
  deriving Repr, DecidableEq

/-- The options with a short form. -/
def Flag.ofLetter? : Char → Option Flag
  | 'c' => some (.setting .capacity)
  | 'e' => some (.setting .erase)
  | 'l' => some (.setting .label)
  | 'f' => some (.switch .forceFat32)
  | 'b' => some (.switch .bigClusters)
  | 'n' => some (.switch .dryRun)
  | 'v' => some (.switch .verbose)
  | 'h' => some (.switch .help)
  | 'V' => some (.switch .version)
  | _ => none

/-- The options by their long form. -/
def Flag.ofName? : String → Option Flag
  | "capacity" => some (.setting .capacity)
  | "erase" => some (.setting .erase)
  | "label" => some (.setting .label)
  | "force-fat32" => some (.switch .forceFat32)
  | "big-clusters" => some (.switch .bigClusters)
  | "dry-run" => some (.switch .dryRun)
  | "json" => some (.switch .json)
  | "verbose" => some (.switch .verbose)
  | "help" => some (.switch .help)
  | "version" => some (.switch .version)
  | _ => none

/-- Why there is nothing to run. -/
inductive Stop where
  | help
  | version
  /-- The arguments make no sense. -/
  | usage
  deriving Repr, DecidableEq

/-- What the words said so far. -/
structure Found where
  capacity : Option Nat := none
  erase : Option EraseMode := none
  label : Option String := none
  forceFat32 : Bool := false
  bigClusters : Bool := false
  dryRun : Bool := false
  json : Bool := false
  device : Option String := none
  deriving Repr, DecidableEq

/-- What the program is to do. -/
structure Arguments where
  options : FormatOptions
  /-- Report in JSON. -/
  json : Bool
  device : Path
  deriving Repr, DecidableEq

/-- The number of decimal digits; there has to be one, and the number has to fit 64 bits. -/
def readDigits (digits : List Char) : Option Nat :=
  if digits.isEmpty || !digits.all Char.isDigit then none
  else
    let value := digits.foldl (fun value digit => 10 * value + (digit.toNat - '0'.toNat)) 0
    if value < 2 ^ 64 then some value else none

/-- The number of a text: digits, with or without a plus sign before them. -/
def readNumber (text : String) : Option Nat :=
  match text.toList with
  | '+' :: digits => readDigits digits
  | digits => readDigits digits

namespace Found

/-- Turns a switch on, unless it is on. -/
def turnOn (found : Found) : Switch → Except Stop Found
  | .forceFat32 => if found.forceFat32 then .error .usage else .ok { found with forceFat32 := true }
  | .bigClusters =>
    if found.bigClusters then .error .usage else .ok { found with bigClusters := true }
  | .dryRun => if found.dryRun then .error .usage else .ok { found with dryRun := true }
  | .json => if found.json then .error .usage else .ok { found with json := true }
  | .verbose => .ok found
  | .help => .error .help
  | .version => .error .version

/-- A value that was read, unless there was one before. -/
def once {Value : Type} (before read : Option Value) : Except Stop (Option Value) :=
  if before.isSome || read.isNone then .error .usage else .ok read

/-- Gives an option its value. -/
def assign (found : Found) (setting : Setting) (value : String) : Except Stop Found := do
  match setting with
  | .capacity => return { found with capacity := ← once found.capacity (readNumber value) }
  | .erase => return { found with erase := ← once found.erase (EraseMode.ofName? value) }
  | .label => return { found with label := ← once found.label (some value) }

/-- Takes the device; its name is not empty. -/
def operand (found : Found) (text : String) : Except Stop Found := do
  return { found with device := ← once found.device (if text.isEmpty then none else some text) }

/-- What the program is to do, if a device was named. -/
def finish (found : Found) : Except Stop Arguments :=
  match found.device with
  | none => .error .usage
  | some device => .ok {
      options := ⟨found.label, found.erase, found.forceFat32, found.bigClusters, found.capacity,
        found.dryRun⟩
      json := found.json
      device := .ofText device }

/-- Takes the short options of a word. The rest of the word behind an option with a value
is the value, with or without an equals sign before it; if there is no rest, the value is
still to come. -/
def letters (found : Found) : List Char → Except Stop (Found × Option Setting)
  | [] => .ok (found, none)
  | letter :: rest => do
    match Flag.ofLetter? letter with
    | none => .error .usage
    | some (.switch switch) => (← found.turnOn switch).letters rest
    | some (.setting setting) =>
      match rest with
      | [] => return (found, some setting)
      | '=' :: value => return (← found.assign setting (String.ofList value), none)
      | value => return (← found.assign setting (String.ofList value), none)

/-- Takes a long option, with the value that stands behind an equals sign in its word. -/
def named (found : Found) (name : String) (value : Option String) :
    Except Stop (Found × Option Setting) := do
  match Flag.ofName? name, value with
  | some (.switch switch), none => return (← found.turnOn switch, none)
  | some (.setting setting), none => return (found, some setting)
  | some (.setting setting), some value => return (← found.assign setting value, none)
  | _, _ => .error .usage

end Found

/-- What a word is. -/
inductive Word where
  /-- Two dashes alone. -/
  | separator
  | long (name : String) (value : Option String)
  | short (letters : List Char)
  | plain (text : String)
  deriving Repr, DecidableEq

/-- A long option and the value behind the first equals sign. -/
def splitValue (characters : List Char) : Word :=
  .long (String.ofList (characters.takeWhile (· != '=')))
    (match characters.dropWhile (· != '=') with
    | [] => none
    | _ :: value => some (String.ofList value))

/-- What a word is. One dash alone is plain. -/
def Word.ofText (text : String) : Word :=
  match text.toList with
  | ['-', '-'] => .separator
  | '-' :: '-' :: rest => splitValue rest
  | ['-'] => .plain text
  | '-' :: letters => .short letters
  | _ => .plain text

/-- Takes the words from left to right. An option whose value is still to come is
pending. -/
def readWords (found : Found) (pending : Option Setting) : List String → Except Stop Found
  | [] => if pending.isSome then .error .usage else .ok found
  | text :: rest => do
    match pending, Word.ofText text with
    | some setting, .plain value => readWords (← found.assign setting value) none rest
    | some _, _ => .error .usage
    | none, .separator => rest.foldlM Found.operand found
    | none, .plain text => readWords (← found.operand text) none rest
    | none, .short letters =>
      let (found, pending) ← found.letters letters
      readWords found pending rest
    | none, .long name value =>
      let (found, pending) ← found.named name value
      readWords found pending rest

/-- What the program is to do, from its arguments. -/
def Arguments.ofWords (words : List String) : Except Stop Arguments := do
  (← readWords {} none words).finish

end CardFormat.CommandLine
