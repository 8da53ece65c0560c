/-
This file holds a tree of named files, as far as opening an image by its path needs
one. The tree is kept as a list of places with what is there; a place is the list of
names that lead to it from the root. Names are bytes, which need not be text. Putting
something at a place changes that place and no other.
-/

import CardFormat.Bytes.Content
import CardFormat.Text.Utf8

namespace CardFormat

/-- What a name stands for. -/
inductive FileEntry where
  | file (content : Content)
  | directory
  /-- A device that is read and written as a stream and has no size. -/
  | characterDevice

/-- A name in a directory. -/
abbrev FileName := List UInt8

/-- A place in the tree: the names on the way from the root. -/
abbrev Location := List FileName

/-- A tree of named files. -/
structure FileTree where
  entries : List (Location × FileEntry)
  /-- Where paths start that do not start at the root. -/
  current : Location

namespace FileTree

/-- The first entry at a place. -/
def entryAt (location : Location) : List (Location × FileEntry) → Option FileEntry
  | [] => none
  | (place, entry) :: rest => if place = location then some entry else entryAt location rest

/-- What is at a place. The root is a directory. -/
def lookup (tree : FileTree) (location : Location) : Option FileEntry :=
  if location = [] then some .directory else entryAt location tree.entries

/-- The entries with another one at a place; if nothing was there, it comes last. -/
def replaceEntry (location : Location) (entry : FileEntry) :
    List (Location × FileEntry) → List (Location × FileEntry)
  | [] => [(location, entry)]
  | (place, old) :: rest =>
    if place = location then (place, entry) :: rest
    else (place, old) :: replaceEntry location entry rest

/-- Puts something at a place. -/
def put (tree : FileTree) (location : Location) (entry : FileEntry) : FileTree :=
  { tree with entries := replaceEntry location entry tree.entries }

/-- The place of the working directory of a new tree. -/
def workingDirectory : Location := ["tmp", "work"].map Text.Utf8.ofText

/-- A tree with a working directory, the given entries in it, and the device that
swallows everything. -/
def ofWorkingDirectory (entries : List (String × FileEntry)) : FileTree where
  entries := [(["dev"].map Text.Utf8.ofText, .directory),
    (["dev", "null"].map Text.Utf8.ofText, .characterDevice),
    (["tmp"].map Text.Utf8.ofText, .directory), (workingDirectory, .directory)] ++
    entries.map fun (name, entry) => (workingDirectory ++ [Text.Utf8.ofText name], entry)
  current := workingDirectory

/-- The names in the working directory, with what they stand for. -/
def workingEntries (tree : FileTree) : List (String × FileEntry) :=
  tree.entries.filterMap fun (place, entry) =>
    match place.getLast? with
    | some name =>
      if place = tree.current ++ [name] then some (Text.Utf8.toText name, entry) else none
    | none => none

/-! ### What putting does -/

theorem replaceEntry_of_entryAt {location : Location} {entry : FileEntry}
    {entries : List (Location × FileEntry)} (there : entryAt location entries = some entry) :
    replaceEntry location entry entries = entries := by
  induction entries with
  | nil => cases there
  | cons first rest inductionHypothesis =>
    obtain ⟨place, old⟩ := first
    by_cases here : place = location
    · simp only [entryAt, here, if_true, Option.some.injEq] at there
      simp only [replaceEntry, here, if_true, there]
    · simp only [entryAt, here, if_false] at there
      simp only [replaceEntry, here, if_false, inductionHypothesis there]

/-- Putting what is there already changes nothing. -/
theorem put_of_lookup {tree : FileTree} {location : Location} {entry : FileEntry}
    (below : location ≠ []) (there : tree.lookup location = some entry) :
    tree.put location entry = tree := by
  simp only [lookup, below, if_false] at there
  rw [put, replaceEntry_of_entryAt there]

end FileTree

end CardFormat
