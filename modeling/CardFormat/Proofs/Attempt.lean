/-
This file says how steps of a computation that may fault compose once it is known that
they succeed: a step that has a value hands it on, also when it is a checked step inside
an attempt, or an action on a state. An attempt succeeds exactly when all its steps do.
-/

import CardFormat.Checked

namespace CardFormat

variable {Reason Value Next : Type}

@[simp] theorem Checked.ok_bind {Cause : Type} (value : Value)
    (continuation : Value → Except Cause Next) :
    (Except.ok value >>= continuation) = continuation value := rfl

@[simp] theorem Checked.pure_eq_ok {Cause : Type} (value : Value) :
    (pure value : Except Cause Value) = .ok value := rfl

@[simp] theorem Attempt.lift_ok (value : Value) :
    (liftM (Except.ok value : Checked Value) : Attempt Reason Value) = .ok value := rfl

@[simp] theorem Attempt.outcome_ok (value : Value) :
    Attempt.outcome (.ok value : Attempt Reason Value) = .ok (.ok value) := rfl

/-! ### Steps of an attempt -/

theorem Attempt.lift_eq_ok_iff {step : Checked Value} {value : Value} :
    (liftM step : Attempt Reason Value) = .ok value ↔ step = .ok value := by
  cases step with
  | error cause =>
    constructor
    · intro impossible
      cases impossible
    · intro impossible
      cases impossible
  | ok result => simp

/-- A step without a value succeeds, and what follows succeeds too. -/
theorem Attempt.seq_eq_ok_iff {step : Attempt Reason Unit} {rest : Attempt Reason Value}
    {value : Value} :
    (step >>= fun _ => rest) = .ok value ↔ step = .ok () ∧ rest = .ok value := by
  rw [Checked.bind_eq_ok_iff]
  exact ⟨fun ⟨_, first, second⟩ => ⟨first, second⟩, fun ⟨first, second⟩ => ⟨(), first, second⟩⟩

/-- Before steps that only answer, an attempt faults where its first step does. -/
theorem Attempt.bind_eq_fault_iff {step : Attempt Reason Value} {cause : Fault}
    {continuation : Value → Attempt Reason Next}
    (answers : ∀ value, continuation value ≠ .error (.fault cause)) :
    (step >>= continuation) = .error (.fault cause) ↔ step = .error (.fault cause) := by
  cases step with
  | ok value => exact iff_of_false (answers value) nofun
  | error failure =>
    constructor
    · rintro ⟨⟩
      rfl
    · rintro ⟨⟩
      rfl

/-- A sum or product of the check that fits its word is passed on. -/
theorem Attempt.word64_bind_eq_ok_iff {number : Nat} {rest : Nat → Attempt Reason Value}
    {value : Value} :
    ((liftM (Checked.word64 number) : Attempt Reason Nat) >>= rest) = .ok value ↔
      number < 2 ^ 64 ∧ rest number = .ok value := by
  rw [Checked.bind_eq_ok_iff]
  simp only [lift_eq_ok_iff, Checked.word64_eq_ok_iff]
  constructor
  · rintro ⟨_, ⟨fits, rfl⟩, result⟩
    exact ⟨fits, result⟩
  · rintro ⟨fits, result⟩
    exact ⟨number, ⟨fits, rfl⟩, result⟩

/-- A difference of the check that is not negative is passed on. -/
theorem Attempt.subtract_bind_eq_ok_iff {minuend subtrahend : Nat}
    {rest : Nat → Attempt Reason Value} {value : Value} :
    ((liftM (Checked.subtract minuend subtrahend) : Attempt Reason Nat) >>= rest) = .ok value ↔
      subtrahend ≤ minuend ∧ rest (minuend - subtrahend) = .ok value := by
  by_cases le : subtrahend ≤ minuend
  · rw [Checked.subtract_of_le le, lift_ok, Checked.ok_bind]
    exact (and_iff_right le).symm
  · rw [Checked.subtract, if_neg le]
    constructor
    · intro impossible
      cases impossible
    · intro impossible
      exact absurd impossible.1 le

/-! ### Steps that may overflow -/

/-- Within the limits the attempt ends as expected. Beyond them it may overflow instead. -/
def Attempt.EndsAs (attempt expected : Attempt Reason Value) (limits : Prop) : Prop :=
  attempt = expected ∨ attempt = .error (.fault .overflow) ∧ ¬ limits

namespace Attempt

variable {attempt expected : Attempt Reason Value} {limits : Prop}

theorem ok_ne_overflow (value : Value) :
    (.ok value : Attempt Reason Value) ≠ .error (.fault .overflow) := nofun

theorem refuse_ne_overflow (reason : Reason) :
    (refuse reason : Attempt Reason Value) ≠ .error (.fault .overflow) := nofun

theorem EndsAs.eq (ends : attempt.EndsAs expected limits) (within : limits) : attempt = expected :=
  ends.resolve_right fun overflow => overflow.2 within

/-- What did not overflow ended as expected. -/
theorem EndsAs.eq_of_ne (ends : attempt.EndsAs expected limits)
    (fits : attempt ≠ .error (.fault .overflow)) : attempt = expected :=
  ends.resolve_right fun overflow => fits overflow.1

/-- What succeeded did so as expected. -/
theorem EndsAs.expected_eq (ends : attempt.EndsAs expected limits) {value : Value}
    (result : attempt = .ok value) : expected = .ok value := by
  rw [← result, ends.eq_of_ne (by rw [result]; exact ok_ne_overflow value)]

theorem EndsAs.bind {first : Attempt Reason Value} {value : Value}
    {continuation : Value → Attempt Reason Next} {expected : Attempt Reason Next}
    (ends : first.EndsAs (.ok value) limits) (rest : (continuation value).EndsAs expected limits) :
    EndsAs (first >>= continuation) expected limits := by
  rcases ends with rfl | ⟨rfl, beyond⟩
  · exact rest
  · exact .inr ⟨rfl, beyond⟩

theorem EndsAs.bind_error {first : Attempt Reason Value} {failure : Failure Reason}
    (ends : first.EndsAs (.error failure) limits) (continuation : Value → Attempt Reason Next) :
    EndsAs (first >>= continuation) (.error failure) limits := by
  rcases ends with rfl | ⟨rfl, beyond⟩
  · exact .inl rfl
  · exact .inr ⟨rfl, beyond⟩

theorem EndsAs.trans {between : Attempt Reason Value} (first : attempt.EndsAs between limits)
    (second : between.EndsAs expected limits) : attempt.EndsAs expected limits := by
  rcases first with rfl | overflow
  · exact second
  · exact .inr overflow

/-- A number that fits its word within the limits is passed on. -/
theorem word64_endsAs {number : Nat} (fits : limits → number < 2 ^ 64) :
    EndsAs (liftM (Checked.word64 number) : Attempt Reason Nat) (.ok number) limits := by
  by_cases small : number < 2 ^ 64
  · rw [Checked.word64_of_lt small]
    exact .inl rfl
  · rw [Checked.word64, if_neg small]
    exact .inr ⟨rfl, fun within => small (fits within)⟩

theorem lift_bind (step : Checked Value) (continuation : Value → Checked Next) :
    (liftM (step >>= continuation) : Attempt Reason Next) =
      liftM step >>= fun value => liftM (continuation value) := by
  cases step with
  | error cause => rfl
  | ok value => rfl

end Attempt

/-! ### Steps of an action -/

/-- An action that succeeds hands its value and its state on. -/
theorem Action.bind_of_ok {Cause State : Type} {action : EStateM Cause State Value}
    {state next : State} {value : Value} (result : action state = .ok value next)
    (continuation : Value → EStateM Cause State Next) :
    (action >>= continuation) state = continuation value next := by
  simp only [bind, EStateM.bind, result]

/-- An action that fails ends what was to follow. -/
theorem Action.bind_of_error {Cause State : Type} {action : EStateM Cause State Value}
    {state next : State} {cause : Cause} (result : action state = .error cause next)
    (continuation : Value → EStateM Cause State Next) :
    (action >>= continuation) state = .error cause next := by
  simp only [bind, EStateM.bind, result]

/-- One action after another succeeds if both do. -/
theorem Action.bind_eq_ok_iff {Cause State : Type} {action : EStateM Cause State Value}
    {continuation : Value → EStateM Cause State Next} {state final : State} {result : Next} :
    (action >>= continuation) state = .ok result final ↔
      ∃ value next, action state = .ok value next ∧ continuation value next = .ok result final := by
  cases outcome : action state with
  | ok value next =>
    rw [bind_of_ok outcome]
    constructor
    · intro succeeds
      exact ⟨value, next, rfl, succeeds⟩
    · rintro ⟨_, _, equal, succeeds⟩
      cases equal
      exact succeeds
  | error cause next =>
    rw [bind_of_error outcome]
    constructor
    · intro impossible
      cases impossible
    · rintro ⟨_, _, impossible, -⟩
      cases impossible

/-- One action after another fails if the first does, or if the second does after it. -/
theorem Action.bind_eq_error_iff {Cause State : Type} {action : EStateM Cause State Value}
    {continuation : Value → EStateM Cause State Next} {state final : State} {cause : Cause} :
    (action >>= continuation) state = .error cause final ↔
      action state = .error cause final ∨
        ∃ value next, action state = .ok value next ∧
          continuation value next = .error cause final := by
  cases outcome : action state with
  | ok value next =>
    rw [bind_of_ok outcome]
    constructor
    · intro fails
      exact .inr ⟨value, next, rfl, fails⟩
    · rintro (impossible | ⟨_, _, equal, fails⟩)
      · cases impossible
      · cases equal
        exact fails
  | error earlier next =>
    rw [bind_of_error outcome]
    constructor
    · intro fails
      cases fails
      exact .inl rfl
    · rintro (fails | ⟨_, _, impossible, -⟩)
      · cases fails
        rfl
      · cases impossible

/-- An action that succeeds does so however its errors are restated. -/
theorem Action.adaptExcept_of_ok {Cause Restated State : Type} {action : EStateM Cause State Value}
    {state next : State} {value : Value} (result : action state = .ok value next)
    (restate : Cause → Restated) : action.adaptExcept restate state = .ok value next := by
  simp only [EStateM.adaptExcept, result]

theorem Action.adaptExcept_of_error {Cause Restated State : Type}
    {action : EStateM Cause State Value} {state next : State} {cause : Cause}
    (result : action state = .error cause next) (restate : Cause → Restated) :
    action.adaptExcept restate state = .error (restate cause) next := by
  simp only [EStateM.adaptExcept, result]

end CardFormat
