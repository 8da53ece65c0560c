/-
This file holds little-endian words: a number as a fixed count of bytes, least
significant byte first. Every number below the width's limit is read back, and
every byte string of that length is written back, so the encoding is a bijection.
-/

import CardFormat.Numbers

namespace CardFormat.LittleEndian

/-- The lowest `width` bytes of a number, least significant first. -/
def encode : (width : Nat) → (value : Nat) → List UInt8
  | 0, _ => []
  | width + 1, value => UInt8.ofNat value :: encode width (value / 256)

/-- The number that the bytes stand for. -/
def decode : List UInt8 → Nat
  | [] => 0
  | byte :: rest => byte.toNat + 256 * decode rest

/-- Two bytes. -/
def word16 (value : UInt16) : List UInt8 := encode 2 value.toNat

/-- Four bytes. -/
def word32 (value : UInt32) : List UInt8 := encode 4 value.toNat

/-- Eight bytes. -/
def word64 (value : UInt64) : List UInt8 := encode 8 value.toNat

/-! ### Length and round trips -/

@[simp] theorem length_encode (width value : Nat) : (encode width value).length = width := by
  induction width generalizing value with
  | zero => rfl
  | succ width inductionHypothesis => simp [encode, inductionHypothesis]

@[simp] theorem length_word16 (value : UInt16) : (word16 value).length = 2 := length_encode _ _

@[simp] theorem length_word32 (value : UInt32) : (word32 value).length = 4 := length_encode _ _

@[simp] theorem length_word64 (value : UInt64) : (word64 value).length = 8 := length_encode _ _

theorem decode_encode (width value : Nat) : decode (encode width value) = value % 256 ^ width := by
  induction width generalizing value with
  | zero => simp [encode, decode, Nat.mod_one]
  | succ width inductionHypothesis =>
    rw [encode, decode, inductionHypothesis, Nat.pow_succ, Nat.mul_comm (256 ^ width) 256,
      Nat.mod_mul]
    rfl

theorem decode_encode_of_lt {width value : Nat} (fits : value < 256 ^ width) :
    decode (encode width value) = value := by
  rw [decode_encode, Nat.mod_eq_of_lt fits]

theorem decode_lt (bytes : List UInt8) : decode bytes < 256 ^ bytes.length := by
  induction bytes with
  | nil => simp [decode]
  | cons byte rest inductionHypothesis =>
    have small : byte.toNat < 256 := byte.toNat_lt
    rw [decode, List.length_cons, Nat.pow_succ]
    omega

theorem decode_append (front back : List UInt8) :
    decode (front ++ back) = decode front + 256 ^ front.length * decode back := by
  induction front with
  | nil => simp [decode]
  | cons byte rest inductionHypothesis =>
    rw [List.cons_append, decode, decode, inductionHypothesis, List.length_cons, Nat.pow_succ',
      Nat.mul_add, Nat.mul_assoc, Nat.add_assoc]

theorem decode_replicate_zero (count : Nat) : decode (List.replicate count 0) = 0 := by
  induction count with
  | zero => rfl
  | succ count inductionHypothesis =>
    rw [List.replicate_succ, decode, inductionHypothesis]
    rfl

theorem encode_decode (bytes : List UInt8) : encode bytes.length (decode bytes) = bytes := by
  induction bytes with
  | nil => rfl
  | cons byte rest inductionHypothesis =>
    have small : byte.toNat < 256 := byte.toNat_lt
    have quotient : (byte.toNat + 256 * decode rest) / 256 = decode rest := by omega
    rw [List.length_cons, encode, decode, quotient, inductionHypothesis]
    congr 1
    apply UInt8.toNat_inj.1
    simp

@[simp] theorem decode_word16 (value : UInt16) : decode (word16 value) = value.toNat :=
  decode_encode_of_lt value.toNat_lt

@[simp] theorem decode_word32 (value : UInt32) : decode (word32 value) = value.toNat :=
  decode_encode_of_lt value.toNat_lt

@[simp] theorem decode_word64 (value : UInt64) : decode (word64 value) = value.toNat :=
  decode_encode_of_lt value.toNat_lt

end CardFormat.LittleEndian
