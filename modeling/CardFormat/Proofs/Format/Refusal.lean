/-
This file proves what is left of a format that is refused: the request was wrong, or the
device too small for it, or there is no layout. All that is found out before the format is
carried out, and carrying it out fails in other ways. So nothing is written, discarded or
closed. But a new image has its size by then: it keeps the size that was asked for, and a
second request is held against it.
-/

import CardFormat.Proofs.Format.Stages

namespace CardFormat

open Formatting

/-- The error finds fault with the request, and not with what the device did. -/
def FormatError.isRefusal : FormatError → Bool
  | .invalidArgument _ => true
  | .deviceTooSmall _ _ => true
  | .infeasible _ => true
  | .openFailed _ _ => false
  | .eraseFailed _ => false
  | .partitionTableFailed _ => false
  | .filesystemFailed _ => false
  | .closeFailed _ => false

/-- However the action fails, it finds no fault with the request. -/
def NeverRefuses {State Value : Type} (action : Formatting State Value) : Prop :=
  ∀ state error final, action state = .error (.refused error) final → error.isRefusal = false

/-! ### Actions that do not refuse -/

namespace NeverRefuses

variable {State Value Next : Type}

theorem pure (value : Value) : NeverRefuses (pure value : Formatting State Value) := by
  intro state error final impossible
  cases impossible

theorem bind {action : Formatting State Value} {continuation : Value → Formatting State Next}
    (first : NeverRefuses action) (second : ∀ value, NeverRefuses (continuation value)) :
    NeverRefuses (action >>= continuation) := by
  intro state error final fails
  rcases Action.bind_eq_error_iff.1 fails with fails | ⟨value, next, -, fails⟩
  · exact first state error final fails
  · exact second value next error final fails

theorem ofAction {restate : IoError → FormatError}
    (blameless : ∀ cause, (restate cause).isRefusal = false) (action : EStateM IoError State Value) :
    NeverRefuses (ofAction restate action) := by
  intro state error final fails
  cases outcome : action state with
  | ok value next =>
    rw [ofAction_of_ok outcome] at fails
    cases fails
  | error cause next =>
    rw [ofAction_of_error outcome] at fails
    cases fails
    exact blameless cause

/-- A computation that is not an attempt can only fault. -/
theorem ofChecked (step : Checked Value) :
    NeverRefuses (ofAttempt (step : Attempt FormatError Value) : Formatting State Value) := by
  intro state error final fails
  cases step with
  | error fault => cases fails
  | ok value => cases fails

theorem restateFailure {restate : IoError → FormatError}
    (blameless : ∀ cause, (restate cause).isRefusal = false)
    (action : EStateM (Failure IoError) State Value) :
    NeverRefuses (action.adaptExcept (restateFailure restate)) := by
  intro state error final fails
  cases outcome : action state with
  | ok value next =>
    rw [Action.adaptExcept_of_ok outcome] at fails
    cases fails
  | error cause next =>
    rw [Action.adaptExcept_of_error outcome] at fails
    cases cause with
    | fault cause => cases fails
    | refused cause =>
      cases fails
      exact blameless cause

theorem throughWriter {Device : Type} [BlockDevice Device]
    {action : Formatting (Writer Device) Value} (blameless : NeverRefuses action) :
    NeverRefuses (throughWriter action) := by
  intro device error final fails
  unfold CardFormat.throughWriter at fails
  cases outcome : action (Writer.start device) with
  | ok value writer =>
    rw [outcome] at fails
    cases fails
  | error failure writer =>
    rw [outcome] at fails
    cases fails
    exact blameless _ _ _ outcome

end NeverRefuses

section

variable {Device : Type} [BlockDevice Device]

theorem eraseIfAsked_neverRefuses (mode : Option EraseMode) :
    NeverRefuses (eraseIfAsked mode : Formatting Device _) := by
  intro device error final fails
  cases mode with
  | none => cases fails
  | some mode =>
    cases outcome : (BlockDevice.discard (mode == .secure) : DeviceAction Device Unit) device with
    | ok value next =>
      rw [eraseIfAsked_of_ok outcome] at fails
      cases fails
    | error cause next =>
      by_cases unsupported : cause.kind = .unsupported
      · rw [eraseIfAsked_of_unsupported outcome unsupported] at fails
        cases fails
      · rw [eraseIfAsked_of_error outcome unsupported] at fails
        cases fails
        rfl

theorem writeCard_neverRefuses (preparation : Preparation) (sources : Sources) :
    NeverRefuses (writeCard preparation sources : Formatting (Writer Device) _) := by
  refine NeverRefuses.bind ?signature fun signature => ?_
  case signature =>
    intro writer error final fails
    cases outcome : sources.diskSignature with
    | ok signature =>
      rw [outcome] at fails
      cases fails
    | error cause =>
      rw [outcome] at fails
      cases fails
      rfl
  refine NeverRefuses.bind (NeverRefuses.ofChecked _) fun table => ?_
  refine NeverRefuses.bind (NeverRefuses.ofAction (fun _ => rfl) _) fun _ => ?_
  refine NeverRefuses.bind (NeverRefuses.restateFailure (fun _ => rfl) _) fun _ => ?_
  refine NeverRefuses.bind (NeverRefuses.ofAction (fun _ => rfl) _) fun length => ?_
  exact NeverRefuses.pure _

/-- Once a format is carried out, its request is not refused any more. -/
theorem carryOut_neverRefuses (options : FormatOptions) (sources : Sources) (sectors : Nat)
    (preparation : Preparation) :
    NeverRefuses (carryOut options sources sectors preparation : Formatting Device _) := by
  refine NeverRefuses.bind (eraseIfAsked_neverRefuses _) fun erased => ?_
  refine NeverRefuses.bind (writeCard_neverRefuses _ _).throughWriter fun written => ?_
  refine NeverRefuses.bind (NeverRefuses.ofAction (fun _ => rfl) _) fun _ => ?_
  exact NeverRefuses.pure _

theorem giveSize_neverRefuses (requested : Option Nat) :
    NeverRefuses (giveSize requested : Formatting Device Unit) := by
  intro device error final fails
  by_cases new : BlockDevice.sectorCount device = 0
  · cases requested with
    | none => cases fails
    | some requested =>
      rw [giveSize_of_new new] at fails
      exact NeverRefuses.ofAction (fun _ => rfl) _ _ _ _ fails
  · rw [giveSize_of_sized new] at fails
    cases fails

end

/-! ### What a refused format leaves -/

namespace MemoryDevice

/-- The device as a format finds it when it comes to check the request: a new image has the
size that is asked for, if this is a size at all and the device is to be written. -/
def sizedFor (options : FormatOptions) (device : MemoryDevice) : MemoryDevice :=
  match options.capacity with
  | none => device
  | some requested =>
    if options.dryRun = false ∧ device.sectors = 0 ∧ 0 < requested ∧
        requested ≤ largestCapacity then
      device.truncated requested
    else device

variable {options : FormatOptions} {device sized : MemoryDevice}

theorem sizedFor_of_dryRun (dry : options.dryRun = true) : device.sizedFor options = device := by
  unfold sizedFor
  cases options.capacity with
  | none => rfl
  | some requested =>
    rw [dry]
    exact if_neg fun impossible => Bool.noConfusion impossible.1

/-- A request for a capacity that cannot be had sizes nothing. -/
theorem sizedFor_of_error {error : FormatError}
    (none : chosenCapacity options.capacity device.sectors = .error error) :
    device.sizedFor options = device := by
  unfold sizedFor
  cases capacity : options.capacity with
  | none => rfl
  | some requested =>
    refine if_neg ?_
    rintro ⟨-, new, positive, within⟩
    have chosen := chosenCapacity_some_eq_ok_iff.2
      ⟨rfl, positive, within, .inl new⟩
    rw [capacity, chosen] at none
    cases none

theorem sizedFor_of_giveSize {sectors : Nat} (real : options.dryRun = false)
    (chosen : chosenCapacity options.capacity device.sectors = .ok sectors)
    (gives : giveSize options.capacity device = .ok () sized) :
    device.sizedFor options = sized := by
  unfold sizedFor
  cases capacity : options.capacity with
  | none =>
    rw [capacity] at gives
    cases gives
    rfl
  | some requested =>
    rw [capacity] at chosen gives
    obtain ⟨-, positive, within, -⟩ := chosenCapacity_some_eq_ok_iff.1 chosen
    by_cases new : device.sectors = 0
    · rw [(truncate_eq_ok_iff.1 (truncate_of_giveSize new gives)).2]
      exact if_pos ⟨real, new, positive, within⟩
    · rw [giveSize_of_sized new] at gives
      cases gives
      exact if_neg fun impossible => absurd impossible.2.1 new

end MemoryDevice

/-- A format that is refused has not written, discarded or closed anything. Only a new image
has been given its size. -/
theorem refused_format_leaves {options : FormatOptions} {sources : Sources}
    {device final : MemoryDevice} {error : FormatError}
    (fails : format options sources device = .error (.refused error) final)
    (refusal : error.isRefusal = true) : final = device.sizedFor options := by
  cases mode : options.dryRun with
  | true =>
    rw [device.sizedFor_of_dryRun mode]
    exact (dryRun_of_error mode fails).1
  | false =>
    cases failsAt_of_error mode fails with
    | capacity none => exact (MemoryDevice.sizedFor_of_error none).symm
    | size chosen unsized =>
      have blameless := giveSize_neverRefuses _ _ _ _ unsized
      rw [refusal] at blameless
      cases blameless
    | preparation chosen gives unprepared =>
      exact (MemoryDevice.sizedFor_of_giveSize mode chosen gives).symm
    | carryingOut chosen gives prepared broken =>
      have blameless := carryOut_neverRefuses _ _ _ _ _ _ _ broken
      rw [refusal] at blameless
      cases blameless

/-- A new image for which 64 sectors are asked is too small and refused; it has them now. -/
theorem refused_format_leaves_smallImage :
    ∃ final, format { capacity := some 64 } ⟨.ok 5, 7⟩ (MemoryDevice.image 0) =
        .error (.refused (.deviceTooSmall 64 128)) final ∧
      final = (MemoryDevice.image 0).sizedFor { capacity := some 64 } := by
  have fails : format { capacity := some 64 } ⟨.ok 5, 7⟩ (MemoryDevice.image 0) =
      .error (.refused (.deviceTooSmall 64 128)) (MemoryDevice.image 64) := rfl
  exact ⟨_, fails, refused_format_leaves fails rfl⟩

/-- So the request is not without effect: what would have been right for the new image is
refused afterwards. -/
theorem refused_format_sizes_image :
    format { capacity := some 64 } ⟨.ok 5, 7⟩ (MemoryDevice.image 0) =
      .error (.refused (.deviceTooSmall 64 128)) (MemoryDevice.image 64) ∧
    (MemoryDevice.image 64).sectors ≠ (MemoryDevice.image 0).sectors ∧
    format { capacity := some 1024 } ⟨.ok 5, 7⟩ (MemoryDevice.image 64) =
      .error (.refused (.invalidArgument (.capacityAboveDevice 1024 64)))
        (MemoryDevice.image 64) :=
  ⟨rfl, by decide, rfl⟩

end CardFormat
