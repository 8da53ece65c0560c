/-
This file puts a witness beside a device. The witness writes down every call that is to
change the device, in order, with the error of a call that failed, and does nothing else.
So it also knows what no device remembers: what was tried in vain, and what came before
what. Whatever is done with a watched device is done with the device itself; actions for
which this is so can be put one after another.
-/

import CardFormat.Device.Basic
import CardFormat.Proofs.Attempt

namespace CardFormat

/-- What is asked of a device. -/
inductive DeviceCall where
  | write (start : Nat) (bytes : Content)
  | discard (secure : Bool)
  | truncate (sectors : Nat)
  | close

/-- A call, with the error it ended with if it failed. -/
structure CallRecord where
  call : DeviceCall
  failure : Option IoError

/-- The call is a write that succeeded. -/
def CallRecord.IsStored (record : CallRecord) : Prop :=
  ∃ start bytes, record = ⟨.write start bytes, none⟩

/-- A device and the calls made on it, oldest first. -/
structure Watched (Device : Type) where
  device : Device
  calls : List CallRecord

namespace Watched

variable {Device : Type}

/-- A device that is watched from now on. -/
def of (device : Device) : Watched Device := ⟨device, []⟩

/-- Makes a call on the device and writes down how it ended. -/
def noting (call : DeviceCall) (action : DeviceAction Device Unit) :
    DeviceAction (Watched Device) Unit := fun watched =>
  match action watched.device with
  | .ok _ next => .ok () ⟨next, watched.calls ++ [⟨call, none⟩]⟩
  | .error error next => .error error ⟨next, watched.calls ++ [⟨call, some error⟩]⟩

instance [BlockDevice Device] : BlockDevice (Watched Device) where
  sectorCount watched := BlockDevice.sectorCount watched.device
  isRegularFile watched := BlockDevice.isRegularFile watched.device
  read watched := BlockDevice.read watched.device
  write start bytes := noting (.write start bytes) (BlockDevice.write start bytes)
  discard secure := noting (.discard secure) (BlockDevice.discard secure)
  truncate sectors := noting (.truncate sectors) (BlockDevice.truncate sectors)
  close := noting .close BlockDevice.close

/-! ### What is written down -/

variable {call : DeviceCall} {action : DeviceAction Device Unit} {watched next : Watched Device}

theorem noting_eq_ok_iff :
    noting call action watched = .ok () next ↔
      action watched.device = .ok () next.device ∧
        next.calls = watched.calls ++ [⟨call, none⟩] := by
  obtain ⟨device, calls⟩ := next
  unfold noting
  cases outcome : action watched.device with
  | ok value after =>
    simp only [EStateM.Result.ok.injEq, Watched.mk.injEq, true_and]
    exact and_congr Iff.rfl eq_comm
  | error error after => simp only [reduceCtorEq, false_and]

theorem noting_eq_error_iff {error : IoError} :
    noting call action watched = .error error next ↔
      action watched.device = .error error next.device ∧
        next.calls = watched.calls ++ [⟨call, some error⟩] := by
  obtain ⟨device, calls⟩ := next
  unfold noting
  cases outcome : action watched.device with
  | ok value after => simp only [reduceCtorEq, false_and]
  | error cause after =>
    simp only [EStateM.Result.error.injEq, Watched.mk.injEq]
    constructor
    · rintro ⟨rfl, rfl, rfl⟩
      exact ⟨⟨rfl, rfl⟩, rfl⟩
    · rintro ⟨⟨rfl, rfl⟩, rfl⟩
      exact ⟨rfl, rfl, rfl⟩

end Watched

/-! ### Actions seen through a view of the state -/

variable {Cause Restated First Second Value Next : Type}

/-- The result of an action, as it looks when only a part of the state is seen. -/
def viewResult (view : First → Second) :
    EStateM.Result Cause First Value → EStateM.Result Cause Second Value
  | .ok value state => .ok value (view state)
  | .error cause state => .error cause (view state)

/-- An action does to the part of the state that is seen what another action does to that
part alone. -/
def ShowsAs (view : First → Second) (action : EStateM Cause First Value)
    (other : EStateM Cause Second Value) : Prop :=
  ∀ state, viewResult view (action state) = other (view state)

namespace ShowsAs

variable {view : First → Second} {action : EStateM Cause First Value}
  {other : EStateM Cause Second Value}

theorem pure (value : Value) :
    ShowsAs view (pure value : EStateM Cause First Value) (pure value) := fun _ => rfl

theorem bind {continuation : Value → EStateM Cause First Next}
    {continuing : Value → EStateM Cause Second Next} (shows : ShowsAs view action other)
    (continues : ∀ value, ShowsAs view (continuation value) (continuing value)) :
    ShowsAs view (action >>= continuation) (other >>= continuing) := by
  intro state
  have first := shows state
  cases outcome : action state with
  | ok value next =>
    rw [outcome] at first
    rw [Action.bind_of_ok outcome, Action.bind_of_ok first.symm]
    exact continues value next
  | error cause next =>
    rw [outcome] at first
    rw [Action.bind_of_error outcome, Action.bind_of_error first.symm]
    rfl

theorem adaptExcept (shows : ShowsAs view action other) (restate : Cause → Restated) :
    ShowsAs view (action.adaptExcept restate) (other.adaptExcept restate) := by
  intro state
  have first := shows state
  cases outcome : action state with
  | ok value next =>
    rw [outcome] at first
    rw [Action.adaptExcept_of_ok outcome, Action.adaptExcept_of_ok first.symm]
    rfl
  | error cause next =>
    rw [outcome] at first
    rw [Action.adaptExcept_of_error outcome, Action.adaptExcept_of_error first.symm]
    rfl

/-- What is seen of a result has the same value, or the same error. -/
theorem eq_ok {state : First} {value : Value} {next : Second} (shows : ShowsAs view action other)
    (result : other (view state) = .ok value next) :
    ∃ final, action state = .ok value final ∧ view final = next := by
  have seen := (shows state).trans result
  cases outcome : action state with
  | ok found final =>
    rw [outcome] at seen
    cases seen
    exact ⟨final, rfl, rfl⟩
  | error cause final =>
    rw [outcome] at seen
    cases seen

theorem eq_error {state : First} {cause : Cause} {next : Second}
    (shows : ShowsAs view action other) (result : other (view state) = .error cause next) :
    ∃ final, action state = .error cause final ∧ view final = next := by
  have seen := (shows state).trans result
  cases outcome : action state with
  | ok found final =>
    rw [outcome] at seen
    cases seen
  | error found final =>
    rw [outcome] at seen
    cases seen
    exact ⟨final, rfl, rfl⟩

end ShowsAs

/-- What is done with a watched device is done with the device. -/
theorem Watched.noting_showsAs {Device : Type} (call : DeviceCall)
    (action : DeviceAction Device Unit) : ShowsAs Watched.device (noting call action) action := by
  intro watched
  unfold noting
  cases action watched.device with
  | ok value next => rfl
  | error error next => rfl

end CardFormat
