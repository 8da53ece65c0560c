/-
This file holds arithmetic on machine words, done on natural numbers. A sum or a
product that leaves its word, a difference that would be negative and a division
by zero are faults: the computation stops there and has no result. An attempt can
also end with a refusal, which is an answer and not a fault.
-/

import CardFormat.Numbers

namespace CardFormat

/-- Why a computation cannot go on. -/
inductive Fault where
  | overflow
  | divisionByZero
  | outOfRange
  deriving Repr, DecidableEq

/-- A computation that may fault. -/
abbrev Checked := Except Fault

/-- How an attempt ends without a result: by a fault, or refused with a reason. -/
inductive Failure (Reason : Type) where
  | fault (cause : Fault)
  | refused (reason : Reason)
  deriving Repr, DecidableEq

/-- A computation that may fault or be refused. -/
abbrev Attempt (Reason : Type) := Except (Failure Reason)

/-- A fault in a step is a fault of the attempt. -/
def Attempt.ofChecked {Reason Value : Type} : Checked Value → Attempt Reason Value
  | .ok value => .ok value
  | .error cause => .error (.fault cause)

instance {Reason : Type} : MonadLift Checked (Attempt Reason) where
  monadLift := Attempt.ofChecked

/-- Refuses for the given reason. -/
def Attempt.refuse {Reason Value : Type} (reason : Reason) : Attempt Reason Value :=
  .error (.refused reason)

/-- Restates the reason of a refusal; faults stay faults. -/
def Attempt.mapReason {Reason Other Value : Type} (restate : Reason → Other) :
    Attempt Reason Value → Attempt Other Value
  | .ok value => .ok value
  | .error (.fault cause) => .error (.fault cause)
  | .error (.refused reason) => .error (.refused (restate reason))

/-- A refusal as an ordinary value, so that only faults remain outside. -/
def Attempt.outcome {Reason Value : Type} : Attempt Reason Value → Checked (Except Reason Value)
  | .ok value => .ok (.ok value)
  | .error (.fault cause) => .error cause
  | .error (.refused reason) => .ok (.error reason)

namespace Checked

/-- A number that has to fit 64 bits. -/
def word64 (value : Nat) : Checked Nat :=
  if value < 2 ^ 64 then .ok value else .error .overflow

/-- A number that has to fit 32 bits. -/
def word32 (value : Nat) : Checked Nat :=
  if value < 2 ^ 32 then .ok value else .error .overflow

/-- The difference, which must not be negative. -/
def subtract (minuend subtrahend : Nat) : Checked Nat :=
  if subtrahend ≤ minuend then .ok (minuend - subtrahend) else .error .overflow

/-- The quotient, rounded down. -/
def divide (dividend divisor : Nat) : Checked Nat :=
  if divisor = 0 then .error .divisionByZero else .ok (dividend / divisor)

/-- The remainder. -/
def remainder (dividend divisor : Nat) : Checked Nat :=
  if divisor = 0 then .error .divisionByZero else .ok (dividend % divisor)

/-- The quotient, rounded up. -/
def ceilDivide (dividend divisor : Nat) : Checked Nat :=
  if divisor = 0 then .error .divisionByZero else .ok ((dividend + divisor - 1) / divisor)

/-! ### When the operations succeed -/

theorem bind_eq_ok_iff {Cause Value Next : Type} {step : Except Cause Value}
    {continuation : Value → Except Cause Next} {result : Next} :
    (step >>= continuation) = .ok result ↔
      ∃ value, step = .ok value ∧ continuation value = .ok result := by
  cases step with
  | error cause => simp [bind, Except.bind]
  | ok value => simp [bind, Except.bind]

theorem word64_eq_ok_iff {value result : Nat} :
    word64 value = .ok result ↔ value < 2 ^ 64 ∧ result = value := by
  by_cases fits : value < 2 ^ 64
  · simp only [word64, fits, if_true, Except.ok.injEq, true_and, eq_comm]
  · simp only [word64, fits, if_false, reduceCtorEq, false_and]

theorem word64_of_lt {value : Nat} (fits : value < 2 ^ 64) : word64 value = .ok value :=
  if_pos fits

theorem word32_of_lt {value : Nat} (fits : value < 2 ^ 32) : word32 value = .ok value :=
  if_pos fits

theorem subtract_eq_ok_iff {minuend subtrahend result : Nat} :
    subtract minuend subtrahend = .ok result ↔ subtrahend + result = minuend := by
  unfold subtract
  split
  · simp only [Except.ok.injEq]
    omega
  · simp only [reduceCtorEq, false_iff]
    omega

theorem subtract_of_le {minuend subtrahend : Nat} (le : subtrahend ≤ minuend) :
    subtract minuend subtrahend = .ok (minuend - subtrahend) :=
  if_pos le

theorem divide_of_pos {dividend divisor : Nat} (positive : 0 < divisor) :
    divide dividend divisor = .ok (dividend / divisor) :=
  if_neg (by omega)

theorem remainder_of_pos {dividend divisor : Nat} (positive : 0 < divisor) :
    remainder dividend divisor = .ok (dividend % divisor) :=
  if_neg (by omega)

theorem ceilDivide_of_pos {dividend divisor : Nat} (positive : 0 < divisor) :
    ceilDivide dividend divisor = .ok ((dividend + divisor - 1) / divisor) :=
  if_neg (by omega)

end Checked

/-- The number is a power of two. -/
def isPowerOfTwo (value : Nat) : Bool :=
  value == 2 ^ value.log2

theorem isPowerOfTwo_iff {value : Nat} : isPowerOfTwo value = true ↔ ∃ exponent, value = 2 ^ exponent := by
  simp only [isPowerOfTwo, beq_iff_eq]
  constructor
  · exact fun equal => ⟨_, equal⟩
  · rintro ⟨exponent, rfl⟩
    rw [Nat.log2_two_pow]

end CardFormat
