/-
This file holds what a format can be asked for, writes it as JSON, and reads it from
JSON text: an object, in which what is not mentioned is not asked for, or an array
of the six values in order. An object must say yes or no where there is no third
answer, and must not say the same thing twice; members it does not know are passed
over.
-/

import CardFormat.Json.Reader
import CardFormat.Json.Value

namespace CardFormat

/-- How a card is erased. -/
inductive EraseMode where
  | trim
  | secure
  deriving Repr, DecidableEq

/-- The word for a way of erasing. -/
def EraseMode.name : EraseMode → String
  | .trim => "trim"
  | .secure => "secure"

/-- The way of erasing that a word names. -/
def EraseMode.ofName? (name : String) : Option EraseMode :=
  if name = "trim" then some .trim else if name = "secure" then some .secure else none

/-- What a format is asked for. -/
structure FormatOptions where
  label : Option String := none
  /-- Discard the whole card first. -/
  erase : Option EraseMode := none
  /-- Use FAT32 where exFAT is usual. -/
  forceFat32 : Bool := false
  /-- Allow large logical sectors for the sake of large FAT32 clusters. -/
  bigClusters : Bool := false
  /-- Capacity in sectors, in place of the device's own. -/
  capacity : Option Nat := none
  /-- Plan and report, and leave the device alone. -/
  dryRun : Bool := false
  deriving Repr, DecidableEq

namespace FormatOptions

/-- Options as JSON. -/
def json (options : FormatOptions) : JsonValue :=
  .object
    [("label", .ofOption .string options.label),
      ("erase", .ofOption (fun mode => .string mode.name) options.erase),
      ("force_fat32", .bool options.forceFat32),
      ("big_clusters", .bool options.bigClusters),
      ("capacity_override", .ofOption .number options.capacity),
      ("dry_run", .bool options.dryRun)]

open JsonReader

/-- Reads a way of erasing: its word, or an object with the word and null. -/
def readErase : Reader EraseMode := fun characters =>
  match skipSpace characters with
  | '\x7b' :: rest => do
    let (name, rest) ← readText rest
    let mode ← EraseMode.ofName? name
    let rest ← expect '\x7d' (← expectWord "null" (← expect ':' rest))
    some (mode, rest)
  | _ => do
    let (name, rest) ← readText characters
    some (← EraseMode.ofName? name, rest)

/-- The members of an object that were found so far. -/
structure Found where
  label : Option (Option String) := none
  erase : Option (Option EraseMode) := none
  forceFat32 : Option Bool := none
  bigClusters : Option Bool := none
  capacity : Option (Option Nat) := none
  dryRun : Option Bool := none

/-- The value for a member; a member that was found before is refused. -/
def once {Value : Type} (found : Option Value) (read : Reader Value) : Reader (Option Value) :=
  fun characters =>
    match found with
    | some _ => none
    | none => (read characters).map fun (value, rest) => (some value, rest)

/-- Reads the value of a member. -/
def readMember (found : Found) (name : String) : Reader Found := fun characters =>
  match name with
  | "label" => do
    let (label, rest) ← once found.label (readOptional readText) characters
    some ({ found with label := label }, rest)
  | "erase" => do
    let (erase, rest) ← once found.erase (readOptional readErase) characters
    some ({ found with erase := erase }, rest)
  | "force_fat32" => do
    let (forceFat32, rest) ← once found.forceFat32 readBool characters
    some ({ found with forceFat32 := forceFat32 }, rest)
  | "big_clusters" => do
    let (bigClusters, rest) ← once found.bigClusters readBool characters
    some ({ found with bigClusters := bigClusters }, rest)
  | "capacity_override" => do
    let (capacity, rest) ← once found.capacity (readOptional readNatural) characters
    some ({ found with capacity := capacity }, rest)
  | "dry_run" => do
    let (dryRun, rest) ← once found.dryRun readBool characters
    some ({ found with dryRun := dryRun }, rest)
  | _ => (skipAny characters).map (found, ·)

/-- Reads the members of an object, up to and with its end. -/
def readMembers (found : Found) : (fuel : Nat) → Reader Found
  | 0, _ => none
  | fuel + 1, characters => do
    let (name, rest) ← readText characters
    let (found, rest) ← readMember found name (← expect ':' rest)
    match skipSpace rest with
    | ',' :: rest => readMembers found fuel rest
    | '\x7d' :: rest => some (found, rest)
    | _ => none

/-- The options of an object, if it says yes or no where it has to. -/
def ofFound (found : Found) : Option FormatOptions := do
  some {
    label := found.label.getD none
    erase := found.erase.getD none
    forceFat32 := ← found.forceFat32
    bigClusters := ← found.bigClusters
    capacity := found.capacity.getD none
    dryRun := ← found.dryRun }

/-- Reads the six values of an array. -/
def readItems : Reader FormatOptions := fun characters => do
  let (label, rest) ← readOptional readText characters
  let (erase, rest) ← readOptional readErase (← expect ',' rest)
  let (forceFat32, rest) ← readBool (← expect ',' rest)
  let (bigClusters, rest) ← readBool (← expect ',' rest)
  let (capacity, rest) ← readOptional readNatural (← expect ',' rest)
  let (dryRun, rest) ← readBool (← expect ',' rest)
  let rest ← expect ']' rest
  some (⟨label, erase, forceFat32, bigClusters, capacity, dryRun⟩, rest)

/-- Reads options. -/
def read : Reader FormatOptions := fun characters =>
  match skipSpace characters with
  | '[' :: rest => readItems rest
  | '\x7b' :: rest => do
    let (found, rest) ← match skipSpace rest with
      | '\x7d' :: rest => some ({}, rest)
      | rest => readMembers {} (rest.length + 1) rest
    some (← ofFound found, rest)
  | _ => none

/-- The options that a JSON text gives. -/
def ofJson? (text : String) : Option FormatOptions := do
  let (options, rest) ← read text.toList
  if (skipSpace rest).isEmpty then some options else none

end FormatOptions

end CardFormat
