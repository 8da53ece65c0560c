/-
This file divides a format into its stages. The capacity is chosen, a new image is given its
size, the parameters are planned and the label is checked; then a dry run ends, and any other
format is carried out. What a dry run finds depends only on the size of the device, and what
may be wrong with a request is found before a format is carried out.
-/

import CardFormat.Proofs.Format.Card
import CardFormat.Proofs.LabelWarnings

namespace CardFormat

open Formatting

/-- The capacity to use of a device that has so many sectors. A new image has none, and takes
what is asked for. -/
def chosenCapacity (requested : Option Nat) (device : Nat) : Except FormatError Nat :=
  match requested with
  | none => .ok device
  | some requested =>
    if requested = 0 ∨ largestCapacity < requested then
      .error (.invalidArgument (.capacityOutOfRange requested))
    else if device = 0 then .ok requested
    else if device < requested then
      .error (.invalidArgument (.capacityAboveDevice requested device))
    else .ok requested

/-- A capacity that is asked for is chosen if it is in range and the device is new or large
enough. -/
theorem chosenCapacity_some_eq_ok_iff {requested device sectors : Nat} :
    chosenCapacity (some requested) device = .ok sectors ↔
      sectors = requested ∧ 0 < requested ∧ requested ≤ largestCapacity ∧
        (device = 0 ∨ requested ≤ device) := by
  unfold chosenCapacity
  simp only
  by_cases wrong : requested = 0 ∨ largestCapacity < requested
  · rw [if_pos wrong]
    constructor
    · intro impossible
      cases impossible
    · rintro ⟨-, positive, within, -⟩
      rcases wrong with zero | large
      · exact absurd zero (Nat.ne_of_gt positive)
      · exact absurd within (Nat.not_le_of_lt large)
  · obtain ⟨some, within⟩ := not_or.1 wrong
    have range : 0 < requested ∧ requested ≤ largestCapacity :=
      ⟨Nat.pos_of_ne_zero some, Nat.le_of_not_lt within⟩
    rw [if_neg wrong, and_iff_right range.1, and_iff_right range.2]
    by_cases new : device = 0
    · rw [if_pos new, Except.ok.injEq, eq_comm]
      exact (and_iff_left (.inl new)).symm
    · rw [if_neg new, or_iff_right new]
      by_cases small : device < requested
      · rw [if_pos small]
        constructor
        · intro impossible
          cases impossible
        · rintro ⟨-, enough⟩
          exact absurd enough (Nat.not_le_of_lt small)
      · rw [if_neg small, Except.ok.injEq, eq_comm]
        exact (and_iff_left (Nat.le_of_not_lt small)).symm

/-- The report of a format that was carried out. -/
def Preparation.finalReport (preparation : Preparation) (sources : Sources) (sectors : Nat)
    (erased : Bool) (notes : List Warning) (signature : UInt32) (length : Nat) : FormatReport :=
  { preparation.report sectors with
    volumeSerial := some sources.volumeSerial
    diskSignature := some signature
    erased := erased
    dryRun := false
    bytesWritten := length
    warnings := (preparation.warnings ++ notes).map Warning.message }

section

variable {Device : Type} [BlockDevice Device]

/-- Gives a new image the size that is asked for. -/
def giveSize (requested : Option Nat) : Formatting Device Unit := fun device =>
  match requested with
  | none => .ok () device
  | some requested =>
    if BlockDevice.sectorCount device = 0 then
      ofAction .partitionTableFailed (BlockDevice.truncate requested) device
    else .ok () device

/-- Carries out a format that is prepared. -/
def carryOut (options : FormatOptions) (sources : Sources) (sectors : Nat)
    (preparation : Preparation) : Formatting Device FormatReport := do
  let (erased, notes) ← eraseIfAsked options.erase
  let (signature, length) ← throughWriter (writeCard preparation sources)
  ofAction .closeFailed BlockDevice.close
  return preparation.finalReport sources sectors erased notes signature length

/-! ### Sizing and erasing -/

theorem giveSize_of_new {device : Device} (new : BlockDevice.sectorCount device = 0)
    (requested : Nat) :
    giveSize (some requested) device =
      ofAction .partitionTableFailed (BlockDevice.truncate requested) device :=
  if_pos new

/-- A new image that is given its size has been resized. -/
theorem truncate_of_giveSize {device sized : Device} (new : BlockDevice.sectorCount device = 0)
    {requested : Nat} (gives : giveSize (some requested) device = .ok () sized) :
    (BlockDevice.truncate requested : DeviceAction Device Unit) device = .ok () sized := by
  rw [giveSize_of_new new] at gives
  cases outcome : (BlockDevice.truncate requested : DeviceAction Device Unit) device with
  | ok value next =>
    rw [ofAction_of_ok outcome] at gives
    cases gives
    rfl
  | error error next =>
    rw [ofAction_of_error outcome] at gives
    cases gives

/-- Only a new image is given a size. -/
theorem giveSize_of_sized {device : Device} (sized : BlockDevice.sectorCount device ≠ 0)
    (requested : Option Nat) : giveSize requested device = .ok () device := by
  cases requested with
  | none => rfl
  | some requested => exact if_neg sized

theorem eraseIfAsked_of_none {mode : Option EraseMode} (noErase : mode = none) (device : Device) :
    eraseIfAsked mode device = .ok (false, []) device := by
  rw [noErase]
  rfl

theorem eraseIfAsked_of_ok {mode : EraseMode} {device next : Device}
    (result : (BlockDevice.discard (mode == .secure) : DeviceAction Device Unit) device =
      .ok () next) :
    eraseIfAsked (some mode) device = .ok (true, []) next := by
  rw [eraseIfAsked, erase, result]

/-- A device that does not know how to be erased is used as it is. -/
theorem eraseIfAsked_of_unsupported {mode : EraseMode} {device next : Device} {error : IoError}
    (result : (BlockDevice.discard (mode == .secure) : DeviceAction Device Unit) device =
      .error error next) (unsupported : error.kind = .unsupported) :
    eraseIfAsked (some mode) device = .ok (false, [.notErased error]) next := by
  rw [eraseIfAsked, erase, result]
  exact if_pos unsupported

theorem eraseIfAsked_of_error {mode : EraseMode} {device next : Device} {error : IoError}
    (result : (BlockDevice.discard (mode == .secure) : DeviceAction Device Unit) device =
      .error error next) (broken : error.kind ≠ .unsupported) :
    eraseIfAsked (some mode) device = .error (.refused (.eraseFailed error)) next := by
  rw [eraseIfAsked, erase, result]
  exact if_neg broken

/-! ### The stages -/

/-- Settling the capacity of a device chooses it and sizes a new image, unless it is a dry run. -/
theorem resolveCapacity_eq (requested : Option Nat) (dryRun : Bool) (device : Device) :
    resolveCapacity requested dryRun device =
      match chosenCapacity requested (BlockDevice.sectorCount device) with
      | .error error => .error (.refused error) device
      | .ok sectors =>
        if dryRun then .ok sectors device
        else (giveSize requested >>= fun _ => pure sectors) device := by
  cases requested with
  | none => cases dryRun <;> rfl
  | some requested =>
    unfold resolveCapacity chosenCapacity
    rw [Action.bind_of_ok (show deviceSectors device = .ok (BlockDevice.sectorCount device) device
      from rfl)]
    simp only
    by_cases wrong : requested = 0 ∨ largestCapacity < requested
    · rw [if_pos wrong, if_pos wrong]
      rfl
    · rw [if_neg wrong, if_neg wrong]
      by_cases new : BlockDevice.sectorCount device = 0
      · rw [if_pos new, if_pos new]
        cases dryRun with
        | true => rfl
        | false =>
          simp only [Bool.false_eq_true, if_false, bind, EStateM.bind, giveSize_of_new new]
      · rw [if_neg new, if_neg new]
        by_cases small : BlockDevice.sectorCount device < requested
        · rw [if_pos small, if_pos small]
          rfl
        · rw [if_neg small, if_neg small]
          cases dryRun with
          | true => rfl
          | false =>
            simp only [Bool.false_eq_true, if_false, bind, EStateM.bind, giveSize_of_sized new]

/-- A capacity that is settled was chosen, and a new image has been given its size. -/
theorem chosenCapacity_of_resolved {requested : Option Nat} {device sized : Device} {sectors : Nat}
    (settled : resolveCapacity requested false device = .ok sectors sized) :
    chosenCapacity requested (BlockDevice.sectorCount device) = .ok sectors ∧
      giveSize requested device = .ok () sized := by
  rw [resolveCapacity_eq] at settled
  cases chosen : chosenCapacity requested (BlockDevice.sectorCount device) with
  | error error =>
    rw [chosen] at settled
    cases settled
  | ok found =>
    rw [chosen] at settled
    obtain ⟨⟨⟩, next, gives, equal⟩ := Action.bind_eq_ok_iff.1 settled
    cases equal
    exact ⟨rfl, gives⟩

/-- Preparing succeeds for every capacity in range, if the label suits the filesystem. -/
theorem prepare_eq_ok {options : FormatOptions} {sectors : Nat} (low : leastSectors ≤ sectors)
    (high : sectors ≤ 2 ^ 32)
    (labelled : ∀ warnings params,
      plan sectors options.forceFat32 options.bigClusters = .ok ⟨warnings, .ok params⟩ →
      ∃ label, Label.forFilesystem params.filesystem options.label = .ok label) :
    ∃ preparation, prepare options sectors = .ok preparation ∧
      preparation.params.PlannedFor sectors ∧
      Label.forFilesystem preparation.params.filesystem options.label = .ok preparation.label := by
  obtain ⟨params, warnings, result, planned⟩ :=
    plan_of_accepted low high options.forceFat32 options.bigClusters
  obtain ⟨label, taken⟩ := labelled warnings params result
  refine ⟨⟨params, label, warnings ++ label.warnings⟩, ?_, planned, taken⟩
  rw [prepare, result, Attempt.lift_ok, Checked.ok_bind]
  simp only [Label.accept_eq, taken]
  rfl

/-- What is prepared is planned, and its label suits the filesystem. -/
theorem planned_of_prepare {options : FormatOptions} {sectors : Nat} {preparation : Preparation}
    (prepared : prepare options sectors = .ok preparation) :
    preparation.params.PlannedFor sectors ∧
      Label.forFilesystem preparation.params.filesystem options.label = .ok preparation.label ∧
      sectors ≤ 2 ^ 32 := by
  unfold prepare at prepared
  obtain ⟨⟨warnings, outcome⟩, planned, rest⟩ := Checked.bind_eq_ok_iff.1 prepared
  rw [Attempt.lift_eq_ok_iff] at planned
  cases outcome with
  | error error => cases rest
  | ok params =>
    simp only [Label.accept_eq] at rest
    cases labelled : Label.forFilesystem params.filesystem options.label with
    | error error =>
      rw [labelled] at rest
      cases rest
    | ok label =>
      rw [labelled] at rest
      cases rest
      exact ⟨plannedFor_of_plan planned, labelled, capacity_le_of_plan planned⟩

/-- A dry run looks at the size of the device, and leaves the device alone. -/
theorem format_dryRun_eq {options : FormatOptions} (dry : options.dryRun = true)
    (sources : Sources) (device : Device) :
    format options sources device =
      match chosenCapacity options.capacity (BlockDevice.sectorCount device) with
      | .error error => .error (.refused error) device
      | .ok sectors =>
        match prepare options sectors with
        | .error failure => .error failure device
        | .ok preparation => .ok (preparation.report sectors) device := by
  have settled := resolveCapacity_eq options.capacity true device
  simp only [format, dry, bind, EStateM.bind, settled]
  cases chosenCapacity options.capacity (BlockDevice.sectorCount device) with
  | error error => rfl
  | ok sectors =>
    simp only [if_true, ofAttempt]
    cases prepare options sectors with
    | error failure => rfl
    | ok preparation => rfl

/-- Any other format goes through all the stages. -/
theorem format_eq {options : FormatOptions} (real : options.dryRun = false) (sources : Sources)
    (device : Device) :
    format options sources device =
      match chosenCapacity options.capacity (BlockDevice.sectorCount device) with
      | .error error => .error (.refused error) device
      | .ok sectors =>
        (giveSize options.capacity >>= fun _ =>
          ofAttempt (prepare options sectors) >>= carryOut options sources sectors) device := by
  have settled := resolveCapacity_eq options.capacity false device
  rw [format, real]
  simp only [bind, EStateM.bind, settled]
  cases chosenCapacity options.capacity (BlockDevice.sectorCount device) with
  | error error => rfl
  | ok sectors =>
    simp only [Bool.false_eq_true, if_false]
    cases giveSize options.capacity device with
    | error failure next => rfl
    | ok value next => rfl

/-! ### How a format ends -/

section

variable {options : FormatOptions} {sources : Sources} {device final : Device}

/-- Where a format can fail, and what it leaves of the device. -/
inductive FailsAt (options : FormatOptions) (sources : Sources) (device : Device) :
    Failure FormatError → Device → Prop
  | capacity {error : FormatError}
    (fails : chosenCapacity options.capacity (BlockDevice.sectorCount device) = .error error) :
    FailsAt options sources device (.refused error) device
  | size {sectors : Nat} {failure : Failure FormatError} {final : Device}
    (chosen : chosenCapacity options.capacity (BlockDevice.sectorCount device) = .ok sectors)
    (fails : giveSize options.capacity device = .error failure final) :
    FailsAt options sources device failure final
  | preparation {sectors : Nat} {failure : Failure FormatError} {sized : Device}
    (chosen : chosenCapacity options.capacity (BlockDevice.sectorCount device) = .ok sectors)
    (gives : giveSize options.capacity device = .ok () sized)
    (fails : prepare options sectors = .error failure) :
    FailsAt options sources device failure sized
  | carryingOut {sectors : Nat} {preparation : Preparation} {failure : Failure FormatError}
    {sized final : Device}
    (chosen : chosenCapacity options.capacity (BlockDevice.sectorCount device) = .ok sectors)
    (gives : giveSize options.capacity device = .ok () sized)
    (prepared : prepare options sectors = .ok preparation)
    (fails : carryOut options sources sectors preparation sized = .error failure final) :
    FailsAt options sources device failure final

theorem failsAt_of_error {failure : Failure FormatError} (real : options.dryRun = false)
    (fails : format options sources device = .error failure final) :
    FailsAt options sources device failure final := by
  rw [format_eq real] at fails
  cases chosen : chosenCapacity options.capacity (BlockDevice.sectorCount device) with
  | error error =>
    rw [chosen] at fails
    cases fails
    exact .capacity chosen
  | ok sectors =>
    rw [chosen] at fails
    rcases Action.bind_eq_error_iff.1 fails with unsized | ⟨⟨⟩, sized, gives, fails⟩
    · exact .size chosen unsized
    · cases outcome : prepare options sectors with
      | error cause =>
        rw [Action.bind_of_error (ofAttempt_of_error outcome sized)] at fails
        cases fails
        exact .preparation chosen gives outcome
      | ok preparation =>
        rw [Action.bind_of_ok (ofAttempt_of_ok outcome sized)] at fails
        exact .carryingOut chosen gives outcome fails

/-- A format that succeeds has been through all the stages. -/
theorem stages_of_ok {report : FormatReport} (real : options.dryRun = false)
    (succeeds : format options sources device = .ok report final) :
    ∃ sectors sized preparation,
      chosenCapacity options.capacity (BlockDevice.sectorCount device) = .ok sectors ∧
      giveSize options.capacity device = .ok () sized ∧
      prepare options sectors = .ok preparation ∧
      carryOut options sources sectors preparation sized = .ok report final := by
  rw [format_eq real] at succeeds
  cases chosen : chosenCapacity options.capacity (BlockDevice.sectorCount device) with
  | error error =>
    rw [chosen] at succeeds
    cases succeeds
  | ok sectors =>
    rw [chosen] at succeeds
    obtain ⟨⟨⟩, sized, gives, rest⟩ := Action.bind_eq_ok_iff.1 succeeds
    cases outcome : prepare options sectors with
    | error cause =>
      rw [Action.bind_of_error (ofAttempt_of_error outcome sized)] at rest
      cases rest
    | ok preparation =>
      rw [Action.bind_of_ok (ofAttempt_of_ok outcome sized)] at rest
      exact ⟨sectors, sized, preparation, rfl, gives, outcome, rest⟩

/-- A dry run that fails has not found a capacity, or cannot be prepared for it. -/
theorem dryRun_of_error {failure : Failure FormatError} (dry : options.dryRun = true)
    (fails : format options sources device = .error failure final) :
    final = device ∧
      ((∃ error, failure = .refused error ∧
        chosenCapacity options.capacity (BlockDevice.sectorCount device) = .error error) ∨
      ∃ sectors,
        chosenCapacity options.capacity (BlockDevice.sectorCount device) = .ok sectors ∧
        prepare options sectors = .error failure) := by
  rw [format_dryRun_eq dry] at fails
  cases chosen : chosenCapacity options.capacity (BlockDevice.sectorCount device) with
  | error error =>
    rw [chosen] at fails
    cases fails
    exact ⟨rfl, .inl ⟨error, rfl, rfl⟩⟩
  | ok sectors =>
    simp only [chosen] at fails
    cases outcome : prepare options sectors with
    | error cause =>
      rw [outcome] at fails
      cases fails
      exact ⟨rfl, .inr ⟨sectors, rfl, outcome⟩⟩
    | ok preparation =>
      rw [outcome] at fails
      cases fails

end

/-- A format whose request is in order is carried out on the device that has its size. -/
theorem format_of_prepared {options : FormatOptions} {device sized : Device} {sectors : Nat}
    {preparation : Preparation} (real : options.dryRun = false)
    (chosen : chosenCapacity options.capacity (BlockDevice.sectorCount device) = .ok sectors)
    (gives : giveSize options.capacity device = .ok () sized)
    (prepared : prepare options sectors = .ok preparation) (sources : Sources) :
    format options sources device = carryOut options sources sectors preparation sized := by
  rw [format_eq real, chosen]
  simp only
  rw [Action.bind_of_ok gives, Action.bind_of_ok (ofAttempt_of_ok prepared sized)]

section

variable {options : FormatOptions} {sources : Sources} {sectors length : Nat}
  {preparation : Preparation} {device emptied written final : Device} {erased : Bool}
  {notes : List Warning} {signature : UInt32}

/-- A format that is carried out erases, writes and closes the device. -/
theorem carryOut_eq_ok (erases : eraseIfAsked options.erase device = .ok (erased, notes) emptied)
    (writes : throughWriter (writeCard preparation sources) emptied =
      .ok (signature, length) written)
    (closes : (BlockDevice.close : DeviceAction Device Unit) written = .ok () final) :
    carryOut options sources sectors preparation device =
      .ok (preparation.finalReport sources sectors erased notes signature length) final := by
  refine (Action.bind_of_ok erases _).trans ?_
  refine (Action.bind_of_ok writes _).trans ?_
  exact Action.bind_of_ok (ofAction_of_ok closes _) _

/-- A device that cannot be closed has been erased and written all the same. -/
theorem carryOut_of_close_error {error : IoError}
    (erases : eraseIfAsked options.erase device = .ok (erased, notes) emptied)
    (writes : throughWriter (writeCard preparation sources) emptied =
      .ok (signature, length) written)
    (fails : (BlockDevice.close : DeviceAction Device Unit) written = .error error final) :
    carryOut options sources sectors preparation device =
      .error (.refused (.closeFailed error)) final := by
  refine (Action.bind_of_ok erases _).trans ?_
  refine (Action.bind_of_ok writes _).trans ?_
  exact Action.bind_of_error (ofAction_of_error fails _) _

/-- A card that could not be written is not closed. -/
theorem carryOut_eq_error {failure : Failure FormatError}
    (erases : eraseIfAsked options.erase device = .ok (erased, notes) emptied)
    (fails : throughWriter (writeCard preparation sources) emptied = .error failure final) :
    carryOut options sources sectors preparation device = .error failure final := by
  refine (Action.bind_of_ok erases _).trans ?_
  exact Action.bind_of_error fails _

end

end

end CardFormat
