/-
This file proves that a dry run predicts the format. It leaves the device alone, and it
always has an answer. If the format succeeds, the dry run has named the capacity, the
parameters, the label and the warnings, but for one that only erasing can bring. If the dry
run has found an error, the format ends with it too, and has done nothing to the device but
to give a new image its size, unless already this fails.
-/

import CardFormat.Proofs.Format.Stages

namespace CardFormat

open Formatting

/-- The report of a dry run is what can be known before the device is touched. -/
structure FormatReport.Predicts (predicted report : FormatReport) : Prop where
  deviceSectors_eq : predicted.deviceSectors = report.deviceSectors
  params_eq : predicted.params = report.params
  label_eq : predicted.label = report.label
  erased_eq : predicted.erased = false
  bytesWritten_eq : predicted.bytesWritten = 0
  volumeSerial_eq : predicted.volumeSerial = none
  diskSignature_eq : predicted.diskSignature = none

section

variable {Device : Type} [BlockDevice Device]

/-- It is asked to erase the device, and the device does not support it. -/
def CannotErase (mode : Option EraseMode) (device : Device) (error : IoError) : Prop :=
  ∃ how next, mode = some how ∧ error.kind = .unsupported ∧
    (BlockDevice.discard (how == .secure) : DeviceAction Device Unit) device = .error error next

variable {options : FormatOptions} {sources : Sources} {device final : Device}
  {report : FormatReport} {sectors : Nat} {preparation : Preparation}

/-- Erasing brings one warning if the device does not support it, and otherwise none. -/
theorem eraseIfAsked_warnings {mode : Option EraseMode} {erased : Bool} {notes : List Warning}
    (result : eraseIfAsked mode device = .ok (erased, notes) final) :
    (∀ error, CannotErase mode device error → notes = [.notErased error]) ∧
      ((∀ error, ¬CannotErase mode device error) → notes = []) := by
  cases mode with
  | none =>
    cases result
    refine ⟨?_, fun _ => rfl⟩
    rintro error ⟨how, next, impossible, -⟩
    cases impossible
  | some mode =>
    cases outcome : (BlockDevice.discard (mode == .secure) : DeviceAction Device Unit) device with
    | ok value next =>
      rw [eraseIfAsked_of_ok outcome] at result
      cases result
      refine ⟨?_, fun _ => rfl⟩
      rintro error ⟨how, other, equal, -, fails⟩
      cases equal
      rw [outcome] at fails
      cases fails
    | error cause next =>
      by_cases unsupported : cause.kind = .unsupported
      · rw [eraseIfAsked_of_unsupported outcome unsupported] at result
        cases result
        constructor
        · rintro error ⟨how, other, equal, -, fails⟩
          cases equal
          rw [outcome] at fails
          cases fails
          rfl
        · intro able
          exact absurd ⟨mode, _, rfl, unsupported, outcome⟩ (able cause)
      · rw [eraseIfAsked_of_error outcome unsupported] at result
        cases result

/-- A format that is carried out reports what was prepared, and what erasing had to say. -/
theorem carryOut_report
    (result : carryOut options sources sectors preparation device = .ok report final) :
    (preparation.report sectors).Predicts report ∧ report.deviceSectors = sectors ∧
      ∃ erased notes next, eraseIfAsked options.erase device = .ok (erased, notes) next ∧
        report.warnings =
          (preparation.report sectors).warnings ++ notes.map Warning.message := by
  obtain ⟨⟨erased, notes⟩, after, erases, rest⟩ := Action.bind_eq_ok_iff.1 result
  obtain ⟨⟨signature, length⟩, written, -, rest⟩ := Action.bind_eq_ok_iff.1 rest
  obtain ⟨⟨⟩, closed, -, ends⟩ := Action.bind_eq_ok_iff.1 rest
  cases ends
  exact ⟨⟨rfl, rfl, rfl, rfl, rfl, rfl, rfl⟩, rfl, erased, notes, after, erases, List.map_append⟩

/-- If the parameters or the label are wrong, a format ends there. Only a new image has been
given its size, or this has failed. -/
theorem format_of_unprepared (real : options.dryRun = false)
    (chosen : chosenCapacity options.capacity (BlockDevice.sectorCount device) = .ok sectors)
    {failure : Failure FormatError} (fails : prepare options sectors = .error failure) :
    format options sources device = .error failure device ∨
      ∃ requested sized, options.capacity = some requested ∧ BlockDevice.sectorCount device = 0 ∧
        ((BlockDevice.truncate requested : DeviceAction Device Unit) device = .ok () sized ∧
          format options sources device = .error failure sized ∨
        ∃ cause, (BlockDevice.truncate requested : DeviceAction Device Unit) device =
            .error cause sized ∧
          format options sources device =
            .error (.refused (.partitionTableFailed cause)) sized) := by
  rw [format_eq real, chosen]
  simp only
  have ends : ∀ sized : Device,
      (ofAttempt (prepare options sectors) >>= carryOut options sources sectors) sized =
        .error failure sized := fun sized =>
    Action.bind_of_error (ofAttempt_of_error fails sized) _
  by_cases new : BlockDevice.sectorCount device = 0
  · cases capacity : options.capacity with
    | none =>
      refine .inl ?_
      rw [Action.bind_of_ok (show giveSize none device = .ok () device from rfl), ends]
    | some requested =>
      refine .inr ⟨requested, ?_⟩
      have sizes := giveSize_of_new new requested
      cases outcome : (BlockDevice.truncate requested : DeviceAction Device Unit) device with
      | ok value sized =>
        rw [ofAction_of_ok outcome] at sizes
        rw [Action.bind_of_ok sizes, ends]
        exact ⟨sized, rfl, new, .inl ⟨rfl, rfl⟩⟩
      | error cause sized =>
        rw [ofAction_of_error outcome] at sizes
        rw [Action.bind_of_error sizes]
        exact ⟨sized, rfl, new, .inr ⟨cause, rfl, rfl⟩⟩
  · refine .inl ?_
    rw [Action.bind_of_ok (giveSize_of_sized new _), ends]

end

/-- Preparing never faults. -/
theorem prepare_answers (options : FormatOptions) (sectors : Nat) :
    (∃ preparation, prepare options sectors = .ok preparation) ∨
      ∃ error, prepare options sectors = .error (.refused error) := by
  obtain ⟨⟨warnings, outcome⟩, planned⟩ := plan_eq_ok sectors options.forceFat32 options.bigClusters
  unfold prepare
  rw [planned, Attempt.lift_ok, Checked.ok_bind]
  cases outcome with
  | error error => exact .inr ⟨error, rfl⟩
  | ok params =>
    simp only [Label.accept_eq]
    cases Label.forFilesystem params.filesystem options.label with
    | error error => exact .inr ⟨error, rfl⟩
    | ok label => exact .inl ⟨_, rfl⟩

section

variable {Device : Type} [BlockDevice Device] {options : FormatOptions}

/-- A dry run always answers, and leaves the device as it is. -/
theorem dryRun_answers (dry : options.dryRun = true) (sources : Sources) (device : Device) :
    (∃ predicted, format options sources device = .ok predicted device) ∨
      ∃ error, format options sources device = .error (.refused error) device := by
  rw [format_dryRun_eq dry]
  cases chosenCapacity options.capacity (BlockDevice.sectorCount device) with
  | error error => exact .inr ⟨error, rfl⟩
  | ok sectors =>
    rcases prepare_answers options sectors with ⟨preparation, prepared⟩ | ⟨error, fails⟩
    · simp only [prepared]
      exact .inl ⟨_, rfl⟩
    · simp only [fails]
      exact .inr ⟨error, rfl⟩

/-- A format that succeeds has been predicted. -/
theorem dryRun_of_ok (drySources : Sources) {sources : Sources} {device final : Device}
    {report : FormatReport}
    (succeeds : format { options with dryRun := false } sources device = .ok report final) :
    ∃ predicted sized,
      format { options with dryRun := true } drySources device = .ok predicted device ∧
      predicted.Predicts report ∧
      resolveCapacity options.capacity false device = .ok report.deviceSectors sized ∧
      (∀ error, CannotErase options.erase sized error →
        report.warnings = predicted.warnings ++ [(Warning.notErased error).message]) ∧
      ((∀ error, ¬CannotErase options.erase sized error) →
        report.warnings = predicted.warnings) := by
  obtain ⟨sectors, sized, preparation, chosen, gives, prepared, carried⟩ :=
    stages_of_ok (show FormatOptions.dryRun { options with dryRun := false } = false from rfl)
      succeeds
  obtain ⟨predicts, capacity, erased, notes, next, erases, warnings⟩ := carryOut_report carried
  obtain ⟨unsupported, supported⟩ := eraseIfAsked_warnings erases
  refine ⟨preparation.report sectors, sized, ?_, predicts, ?_, ?_, ?_⟩
  · rw [format_dryRun_eq rfl, chosen]
    simp only [show prepare { options with dryRun := true } sectors = _ from prepared]
  · rw [resolveCapacity_eq, chosen, capacity]
    exact Action.bind_of_ok gives _
  · intro error cannot
    rw [warnings, unsupported error cannot]
    rfl
  · intro able
    rw [warnings, supported able]
    exact List.append_nil _

end

/-- A dry run leaves the device as it is and always answers. When the format succeeds, the dry
run has predicted its report, and the warnings but for one if the device cannot be erased.
When the dry run finds an error, so does the format: the same one, unless a new image could
not be given its size, and nothing else has been done to the device. -/
theorem dryRun_predicts {Device : Type} [BlockDevice Device] (options : FormatOptions)
    (drySources sources : Sources) (device : Device) :
    let dry := format { options with dryRun := true } drySources device
    let real := format { options with dryRun := false } sources device
    ((∃ predicted, dry = .ok predicted device) ∨
      ∃ error, dry = .error (.refused error) device) ∧
    (∀ report final, real = .ok report final →
      ∃ predicted sized, dry = .ok predicted device ∧ predicted.Predicts report ∧
        resolveCapacity options.capacity false device = .ok report.deviceSectors sized ∧
        (∀ error, CannotErase options.erase sized error →
          report.warnings = predicted.warnings ++ [(Warning.notErased error).message]) ∧
        ((∀ error, ¬CannotErase options.erase sized error) →
          report.warnings = predicted.warnings)) ∧
    (∀ error, dry = .error (.refused error) device →
      real = .error (.refused error) device ∨
      ∃ requested sized, options.capacity = some requested ∧ BlockDevice.sectorCount device = 0 ∧
        ((BlockDevice.truncate requested : DeviceAction Device Unit) device = .ok () sized ∧
          real = .error (.refused error) sized ∨
        ∃ cause, (BlockDevice.truncate requested : DeviceAction Device Unit) device =
            .error cause sized ∧
          real = .error (.refused (.partitionTableFailed cause)) sized)) := by
  intro dry real
  refine ⟨dryRun_answers rfl drySources device, fun report final succeeds =>
    dryRun_of_ok drySources succeeds, fun error fails => ?_⟩
  rcases (dryRun_of_error rfl fails).2 with ⟨other, equal, none⟩ | ⟨sectors, chosen, unprepared⟩
  · cases equal
    refine .inl ?_
    rw [show real = _ from format_eq rfl sources device]
    simp only [none]
  · exact format_of_unprepared
      (show FormatOptions.dryRun { options with dryRun := false } = false from rfl) chosen
      unprepared

end CardFormat
