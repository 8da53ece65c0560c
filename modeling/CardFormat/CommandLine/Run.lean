/-
This file runs the program. What the words say is read, the device is opened and
formatted, and the report is printed, or the error is told and the status taken from it.
The program is the same on every system: what it asks of the system, to open a device
and to store what was formatted, is named apart, and a tree of files answers it as the
real one does. The reading of words and the writing of JSON are not its own, and named
apart as well. A dry run opens the device for reading, so that it needs no permission
to write and creates no file, and stores nothing.
-/

import CardFormat.CommandLine.Arguments
import CardFormat.CommandLine.Help
import CardFormat.Files.Open
import CardFormat.Format.Run

namespace CardFormat.CommandLine

/-! ### Errors that end the program -/

/-- An error that ends the program. -/
inductive ProgramError where
  | format (error : FormatError)
  /-- An error of another kind, in words. -/
  | other (message : String)
  /-- An error, and what was being done when it came up. -/
  | during (action : String) (error : ProgramError)
  deriving Repr, DecidableEq

/-- The status of the program for errors that are no format errors. -/
def otherStatus : UInt8 := 9

/-- A status as one byte, if it is that small. -/
def statusByte? (status : Nat) : Option UInt8 :=
  if status < 2 ^ 8 then some (.ofNat status) else none

namespace ProgramError

/-- The format error, if it is one, whatever was being done. -/
def formatError? : ProgramError → Option FormatError
  | .format error => some error
  | .other _ => none
  | .during _ error => error.formatError?

/-- The status that the program ends with. -/
def exitStatus (error : ProgramError) : UInt8 :=
  (error.formatError?.bind fun error => statusByte? error.exitStatus).getD otherStatus

/-- The parts of its text, the most general first, down to the error behind a format error. -/
def parts : ProgramError → List String
  | .format error => error.message :: (error.source.map IoError.message).toList
  | .other message => [message]
  | .during action error => action :: error.parts

end ProgramError

/-! ### How the program ends -/

/-- How the program ends, and what it has printed. -/
structure Outcome where
  exitStatus : Nat
  output : String
  errors : String
  deriving Repr, DecidableEq

namespace Outcome

/-- The program ends well. -/
def printed (text : String) : Outcome := ⟨0, text ++ "\n", ""⟩

/-- The arguments make no sense; what is said about that is up to the outer layer. -/
def usage : Outcome := ⟨1, "", ""⟩

/-- The program ends with an error. -/
def failed (error : ProgramError) : Outcome :=
  ⟨error.exitStatus.toNat, "", "Error: " ++ String.intercalate ": " error.parts ++ "\n"⟩

/-- The program cannot go on. -/
def faulted : Outcome := ⟨101, "", ""⟩

/-- The outcome when there is nothing to run. -/
def ofStop : Stop → Outcome
  | .help => printed helpText
  | .version => printed versionText
  | .usage => usage

/-- The outcome of a run that has a text to print, or has failed. -/
def ofResult : Attempt ProgramError String → Outcome
  | .ok text => printed text
  | .error (.refused error) => failed error
  | .error (.fault _) => faulted

end Outcome

/-! ### What the program takes from others -/

/-- What reads the words of a command line, and writes a report as JSON or says what hinders it.
Words need not be text. -/
structure Libraries (Word : Type) where
  parse : List Word → Except Stop Arguments
  writeJson : FormatReport → Except String String

/-- What the program asks of the system that it runs on. -/
structure System (Effect : Type → Type) (Handle : Type) where
  /-- Opens the device at a path. A file that is opened for writing is there from then on. -/
  openDevice : Path → Access → Effect (Except FormatError (Handle × FileDevice))
  /-- Stores a device of which bytes up to a length are new, or all if it has grown. -/
  store : Handle → FileDevice → (length : Nat) → Effect (Except IoError Unit)

/-! ### The program -/

/-- What the device is opened for. -/
def Arguments.access (arguments : Arguments) : Access :=
  if arguments.options.dryRun then .reading else .writing

/-- What comes of a format, and the device after it. -/
def formatted (options : FormatOptions) (sources : Sources) (device : FileDevice) :
    Attempt FormatError FormatReport × FileDevice :=
  match format options sources device with
  | .ok report device => (.ok report, device)
  | .error failure device => (.error failure, device)

/-- The length of the stream that a format has put on its device, in whole sectors. -/
def streamLength : Attempt FormatError FormatReport → Nat
  | .ok report => (report.bytesWritten + sectorBytes - 1) / sectorBytes * sectorBytes
  | .error _ => 0

/-- A format error, and that the device was being formatted. -/
def Arguments.whileFormatting (arguments : Arguments) (error : FormatError) : ProgramError :=
  .during ("Formatting " ++ arguments.device.display ++ " failed") (.format error)

section

variable {Word : Type} (libraries : Libraries Word)

/-- The report in the form that the arguments ask for. -/
def Arguments.reportText (arguments : Arguments) (report : FormatReport) :
    Attempt ProgramError String :=
  if arguments.json then
    (libraries.writeJson report).mapError fun message => .refused (.other message)
  else .ok report.text

/-- What there is to print after a format. -/
def Arguments.conclude (arguments : Arguments) (result : Attempt FormatError FormatReport) :
    Attempt ProgramError String := do
  arguments.reportText libraries (← result.mapReason arguments.whileFormatting)

variable {Effect : Type → Type} [Monad Effect] {Handle : Type} (system : System Effect Handle)

/-- Formats a device that is open, and stores it unless nothing was to be done. -/
def Arguments.formatOpened (arguments : Arguments) (sources : Sources) (handle : Handle)
    (device : FileDevice) : Effect (Attempt ProgramError String) :=
  let (result, device) := formatted arguments.options sources device
  if arguments.options.dryRun then return arguments.conclude libraries result
  else do
    match ← system.store handle device (streamLength result) with
    | .error error =>
      return arguments.conclude libraries (Attempt.refuse (.filesystemFailed error))
    | .ok _ => return arguments.conclude libraries result

/-- Does what the arguments say. -/
def Arguments.run (arguments : Arguments) (sources : Sources) :
    Effect (Attempt ProgramError String) := do
  match ← system.openDevice arguments.device arguments.access with
  | .error error => return Attempt.refuse (.format error)
  | .ok (handle, device) => arguments.formatOpened libraries system sources handle device

/-- The program. -/
def program (sources : Sources) (words : List Word) : Effect Outcome := do
  match libraries.parse words with
  | .error stop => return .ofStop stop
  | .ok arguments => return .ofResult (← arguments.run libraries system sources)

end

/-! ### The program on a tree of files -/

/-- The reader of words and the writer of JSON that are here. -/
def libraries : Libraries String where
  parse := Arguments.ofWords
  writeJson report := .ok report.json.text

/-- A tree of files as a system. -/
def treeSystem : System (StateM FileTree) Location where
  openDevice path access := fun tree =>
    match tree.openDevice path access with
    | .error error => (.error error, tree)
    | .ok (opened, tree) => (.ok (opened.location, opened.device), tree)
  store location device _ := fun tree => (.ok (), tree.keep ⟨location, device⟩)

/-- Runs the program on a tree of files. -/
def run (words : List String) (sources : Sources) (tree : FileTree) : Outcome × FileTree :=
  program libraries treeSystem sources words tree

end CardFormat.CommandLine
