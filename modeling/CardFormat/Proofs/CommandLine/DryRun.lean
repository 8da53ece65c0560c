/-
This file proves that a dry run is harmless and tells the truth. Of the system it asks only to
open the device for reading, whatever the system is. On a tree of files nothing changes. The
program ends well exactly if the path can be opened and a dry run on an image of the same size
succeeds; otherwise it ends with the status of the error that has come up there, also where a
text about it was added, and never with the one for other errors. This holds of every reader of
words that honours the option and of every writer of JSON that can write reports.
-/

import CardFormat.CommandLine.Run
import CardFormat.Device.Memory
import CardFormat.Proofs.CommandLine.Arguments
import CardFormat.Proofs.Format.DryRun

namespace CardFormat

theorem FormatError.exitStatus_pos (error : FormatError) : 0 < error.exitStatus := by
  cases error with
  | _ => exact Nat.succ_pos _

theorem FormatError.exitStatus_le (error : FormatError) : error.exitStatus ≤ 8 := by
  cases error with
  | _ => exact Nat.le_of_ble_eq_true rfl

namespace CommandLine.ProgramError

variable {error : ProgramError}

/-- A format error keeps its own status through all that is said about it. -/
theorem exitStatus_of_format {cause : FormatError} (found : error.formatError? = some cause) :
    error.exitStatus.toNat = cause.exitStatus := by
  have small : cause.exitStatus < 2 ^ 8 := Nat.lt_of_le_of_lt cause.exitStatus_le (by decide)
  rw [exitStatus, found, Option.bind_some, statusByte?, if_pos small, Option.getD_some,
    UInt8.toNat_ofNat_of_lt' small]

theorem exitStatus_of_other (unknown : error.formatError? = none) :
    error.exitStatus = otherStatus := by
  rw [exitStatus, unknown, Option.bind_none, Option.getD_none]

example : (during "Formatting card.img failed" (.format (.infeasible .noCapacity))).exitStatus = 5 :=
  rfl

end CommandLine.ProgramError

namespace FileTree

variable {tree : FileTree} {path : Path} {location : Location} {content : Content}

/-- Opening for reading gives what is there. -/
theorem lookup_of_openAt {asDirectory : Bool} {entry : FileEntry}
    (opens : tree.openAt location .reading asDirectory = .ok entry) :
    tree.lookup location = some entry := by
  unfold openAt at opens
  cases there : tree.lookup location with
  | none =>
    rw [there] at opens
    cases opens
  | some found =>
    rw [there] at opens
    cases found with
    | directory =>
      cases opens
      rfl
    | file | characterDevice =>
      simp only [openExisting] at opens
      split at opens
      · cases opens
      · cases opens
        rfl

/-- A file that is opened for reading is there, and so it is not the root. -/
theorem lookup_of_openFile (opens : tree.openFile path .reading = .ok (location, content)) :
    location ≠ [] ∧ tree.lookup location = some (.file content) := by
  unfold openFile at opens
  split at opens
  · cases opens
  · obtain ⟨place, -, opens⟩ := Checked.bind_eq_ok_iff.1 opens
    obtain ⟨entry, opened, opens⟩ := Checked.bind_eq_ok_iff.1 opens
    have there := lookup_of_openAt opened
    cases entry with
    | directory | characterDevice => cases opens
    | file found =>
      cases opens
      refine ⟨?_, there⟩
      rintro rfl
      cases there

end FileTree

namespace CommandLine

/-- A dry run looks at a file as at an image of the same size, and leaves it alone. -/
theorem format_dryRun_file {options : FormatOptions} (dry : options.dryRun = true)
    (sources : Sources) (content : Content) :
    (∃ report, format options sources (FileDevice.ofContent content .reading) =
        .ok report (FileDevice.ofContent content .reading) ∧
      format options sources (MemoryDevice.image (content.size / sectorBytes)) =
        .ok report (MemoryDevice.image (content.size / sectorBytes))) ∨
    ∃ error, format options sources (FileDevice.ofContent content .reading) =
        .error (.refused error) (FileDevice.ofContent content .reading) ∧
      format options sources (MemoryDevice.image (content.size / sectorBytes)) =
        .error (.refused error) (MemoryDevice.image (content.size / sectorBytes)) := by
  have file := format_dryRun_eq dry sources (FileDevice.ofContent content .reading)
  have image := format_dryRun_eq dry sources (MemoryDevice.image (content.size / sectorBytes))
  rw [show BlockDevice.sectorCount (FileDevice.ofContent content .reading) =
    content.size / sectorBytes from rfl] at file
  rw [show BlockDevice.sectorCount (MemoryDevice.image (content.size / sectorBytes)) =
    content.size / sectorBytes from rfl] at image
  cases chosen : chosenCapacity options.capacity (content.size / sectorBytes) with
  | error error =>
    rw [chosen] at file image
    exact .inr ⟨error, file, image⟩
  | ok sectors =>
    simp only [chosen] at file image
    rcases prepare_answers options sectors with ⟨preparation, prepared⟩ | ⟨error, fails⟩
    · simp only [prepared] at file image
      exact .inl ⟨_, file, image⟩
    · simp only [fails] at file image
      exact .inr ⟨error, file, image⟩

/-! ### What a dry run asks of the system -/

section

variable {Word : Type} {libraries : Libraries Word} {arguments : Arguments} {sources : Sources}

/-- What there is to print when the device was opened for a dry run, or was not. -/
def Arguments.concludeDryRun {Handle : Type} (arguments : Arguments) (libraries : Libraries Word)
    (sources : Sources) :
    Except FormatError (Handle × FileDevice) → Attempt ProgramError String
  | .error error => Attempt.refuse (.format error)
  | .ok (_, device) =>
    arguments.conclude libraries (formatted arguments.options sources device).1

/-- On every system a dry run opens the device for reading and does nothing else. -/
theorem run_of_dryRun {Effect : Type → Type} [Monad Effect] {Handle : Type}
    (system : System Effect Handle) (mode : arguments.options.dryRun = true) :
    arguments.run libraries system sources = do
      return arguments.concludeDryRun libraries sources
        (← system.openDevice arguments.device .reading) := by
  have access : arguments.access = .reading := if_pos mode
  rw [Arguments.run, access]
  refine congrArg (system.openDevice arguments.device .reading >>= ·) (funext fun opened => ?_)
  cases opened with
  | error error => rfl
  | ok opened => exact if_pos mode

/-! ### A dry run on a tree of files -/

/-- Opening for reading leaves the tree as it is. -/
theorem openDevice_reading (tree : FileTree) (path : Path) :
    treeSystem.openDevice path .reading tree =
      match tree.openFile path .reading with
      | .error cause => (.error (.openFailed path.display cause), tree)
      | .ok (location, content) => (.ok (location, .ofContent content .reading), tree) := by
  simp only [treeSystem, FileTree.openDevice]
  cases opens : tree.openFile path .reading with
  | error cause => rfl
  | ok found =>
    obtain ⟨location, content⟩ := found
    obtain ⟨below, there⟩ := FileTree.lookup_of_openFile opens
    have same : tree.put location (.file content) = tree := FileTree.put_of_lookup below there
    simp only [FileTree.keep]
    rw [show (FileDevice.ofContent content .reading).content = content from rfl, same]

/-- A dry run ends in one of three ways, and none changes the tree: the device cannot be opened;
or a dry run on an image of the same size succeeds, and so does this one; or both fail with the
same error. -/
theorem program_cases_of_dryRun {words : List Word}
    (accepted : libraries.parse words = .ok arguments) (mode : arguments.options.dryRun = true)
    (sources : Sources) (tree : FileTree) :
    (∃ cause, tree.openFile arguments.device .reading = .error cause ∧
      program libraries treeSystem sources words tree =
        (.failed (.format (.openFailed arguments.device.display cause)), tree)) ∨
    ∃ location content, tree.openFile arguments.device .reading = .ok (location, content) ∧
      ((∃ report image, format arguments.options sources
          (MemoryDevice.image (content.size / sectorBytes)) = .ok report image ∧
        program libraries treeSystem sources words tree =
          (.ofResult (arguments.reportText libraries report), tree)) ∨
      ∃ error image, format arguments.options sources
          (MemoryDevice.image (content.size / sectorBytes)) = .error (.refused error) image ∧
        program libraries treeSystem sources words tree =
          (.failed (arguments.whileFormatting error), tree)) := by
  have ran : program libraries treeSystem sources words tree =
      (.ofResult (arguments.concludeDryRun libraries sources
        (treeSystem.openDevice arguments.device .reading tree).1),
        (treeSystem.openDevice arguments.device .reading tree).2) := by
    rw [program, accepted]
    simp only
    rw [run_of_dryRun treeSystem mode]
    rfl
  rw [openDevice_reading] at ran
  cases opens : tree.openFile arguments.device .reading with
  | error cause =>
    rw [opens] at ran
    exact .inl ⟨cause, rfl, ran⟩
  | ok opened =>
    obtain ⟨location, content⟩ := opened
    rw [opens] at ran
    refine .inr ⟨location, content, rfl, ?_⟩
    simp only [Arguments.concludeDryRun, formatted] at ran
    rcases format_dryRun_file mode sources content with
      ⟨report, file, image⟩ | ⟨error, file, image⟩
    · rw [file] at ran
      exact .inl ⟨report, _, image, ran⟩
    · rw [file] at ran
      exact .inr ⟨error, _, image, ran⟩

end

/-! ### What the program relies on -/

section

variable {Word : Type}

/-- Words that are accepted and have the option for a dry run among them stand for one. -/
def Libraries.HonoursDryRun (libraries : Libraries Word) (asks : List Word → Prop) : Prop :=
  ∀ words arguments, libraries.parse words = .ok arguments → asks words →
    arguments.options.dryRun = true

/-- Every report can be written as JSON. -/
def Libraries.WritesReports (libraries : Libraries Word) : Prop :=
  ∀ report, ∃ text, libraries.writeJson report = .ok text

/-- A report is printed, in whatever form. -/
theorem Arguments.reportText_eq_ok (arguments : Arguments) {libraries : Libraries Word}
    (writes : libraries.WritesReports) (report : FormatReport) :
    ∃ text, arguments.reportText libraries report = .ok text := by
  obtain ⟨text, written⟩ := writes report
  unfold reportText
  split
  · exact ⟨text, by rw [written]; rfl⟩
  · exact ⟨report.text, rfl⟩

/-- How a dry run ends on a tree of files. The tree stays as it is. The program ends well exactly if
there is a file at the path that can be opened for reading, and a dry run on an image of as many
sectors succeeds. If there is none, or the dry run fails, the status is that of the error, and in no
case the one for other errors. -/
structure Harmless (arguments : Arguments) (sources : Sources) (tree : FileTree)
    (outcome : Outcome) (after : FileTree) : Prop where
  after_eq : after = tree
  dryRun_eq : arguments.options.dryRun = true
  file : ∀ location content, tree.openFile arguments.device .reading = .ok (location, content) →
    tree.lookup location = some (.file content)
  exitStatus_eq_zero_iff : outcome.exitStatus = 0 ↔ ∃ location content report image,
    tree.openFile arguments.device .reading = .ok (location, content) ∧
      format arguments.options sources (MemoryDevice.image (content.size / sectorBytes)) =
        .ok report image
  unopened : ∀ cause, tree.openFile arguments.device .reading = .error cause →
    outcome.exitStatus = (FormatError.openFailed arguments.device.display cause).exitStatus
  unformatted : ∀ location content failure image,
    tree.openFile arguments.device .reading = .ok (location, content) →
    format arguments.options sources (MemoryDevice.image (content.size / sectorBytes)) =
      .error failure image →
    ∃ error, failure = .refused error ∧ outcome.exitStatus = error.exitStatus
  exitStatus_ne_other : outcome.exitStatus ≠ otherStatus.toNat

namespace Harmless

variable {arguments : Arguments} {sources : Sources} {tree : FileTree} {outcome : Outcome}
  {location : Location} {content : Content}

/-- A file that was opened is there. -/
theorem file_of_opened : ∀ location content,
    tree.openFile arguments.device .reading = .ok (location, content) →
      tree.lookup location = some (.file content) :=
  fun _ _ opens => (FileTree.lookup_of_openFile opens).2

/-- No format error has the status for other errors. -/
theorem ne_other_of_status {error : FormatError} (status : outcome.exitStatus = error.exitStatus) :
    outcome.exitStatus ≠ otherStatus.toNat := by
  rw [status]
  exact Nat.ne_of_lt (Nat.lt_succ_of_le error.exitStatus_le)

theorem of_unopened (mode : arguments.options.dryRun = true) {cause : IoError}
    (opens : tree.openFile arguments.device .reading = .error cause)
    (status : outcome.exitStatus =
      (FormatError.openFailed arguments.device.display cause).exitStatus) :
    Harmless arguments sources tree outcome tree := by
  refine ⟨rfl, mode, file_of_opened, iff_of_false (fun zero => ?_) ?_, ?_, ?_,
    ne_other_of_status status⟩
  · exact absurd (status.symm.trans zero) (Nat.succ_ne_zero _)
  · rw [opens]
    rintro ⟨location, content, report, image, ⟨⟩, -⟩
  · rw [opens]
    rintro found ⟨⟩
    exact status
  · rw [opens]
    rintro location content failure image ⟨⟩

theorem of_formatted (mode : arguments.options.dryRun = true)
    (opens : tree.openFile arguments.device .reading = .ok (location, content))
    {report : FormatReport} {image : MemoryDevice}
    (succeeds : format arguments.options sources (MemoryDevice.image (content.size / sectorBytes)) =
      .ok report image) (status : outcome.exitStatus = 0) :
    Harmless arguments sources tree outcome tree := by
  refine ⟨rfl, mode, file_of_opened,
    iff_of_true status ⟨location, content, report, image, opens, succeeds⟩, ?_, ?_, ?_⟩
  · rw [opens]
    rintro cause ⟨⟩
  · rw [opens]
    rintro place found failure other ⟨⟩ fails
    cases succeeds.symm.trans fails
  · rw [status]
    exact Nat.ne_of_lt (by decide)

theorem of_unformatted (mode : arguments.options.dryRun = true)
    (opens : tree.openFile arguments.device .reading = .ok (location, content))
    {error : FormatError} {image : MemoryDevice}
    (fails : format arguments.options sources (MemoryDevice.image (content.size / sectorBytes)) =
      .error (.refused error) image) (status : outcome.exitStatus = error.exitStatus) :
    Harmless arguments sources tree outcome tree := by
  refine ⟨rfl, mode, file_of_opened, iff_of_false (fun zero => ?_) ?_, ?_, ?_,
    ne_other_of_status status⟩
  · exact absurd (status.symm.trans zero) (Nat.ne_of_gt error.exitStatus_pos)
  · rw [opens]
    rintro ⟨place, found, report, other, ⟨⟩, succeeds⟩
    cases fails.symm.trans succeeds
  · rw [opens]
    rintro cause ⟨⟩
  · rw [opens]
    rintro place found failure other ⟨⟩ same
    cases fails.symm.trans same
    exact ⟨error, rfl, status⟩

end Harmless

end

/-- The reader of words that is here honours the option in each of its forms. -/
theorem libraries_honour : libraries.HonoursDryRun fun words => asksDryRun words = true :=
  fun _ _ accepted asked => (dryRun_of_ofWords accepted).trans asked

theorem libraries_write : libraries.WritesReports := fun _ => ⟨_, rfl⟩

end CommandLine

end CardFormat
