/-
This file proves that a text in UTF-16 is read back. A character below 0x10000 is its own unit,
and no such character has a number of a surrogate. Of any other character the lead and the trail
each keep ten bits, so the pair names it again.
-/

import CardFormat.Text.Utf16

namespace CardFormat.Text.Utf16

/-- No character has the number of a surrogate. -/
theorem toNat_range (character : Char) :
    character.toNat < 0xD800 ∨ 0xDFFF < character.toNat ∧ character.toNat < 0x110000 :=
  character.valid

theorem isLead_ofNat {number : Nat} (fits : number < 2 ^ 16) :
    isLead (UInt16.ofNat number) = true ↔ 0xD800 ≤ number ∧ number < 0xDC00 := by
  rw [isLead, UInt16.toNat_ofNat_of_lt' fits, Bool.and_eq_true, decide_eq_true_eq,
    decide_eq_true_eq]

theorem isTrail_ofNat {number : Nat} (fits : number < 2 ^ 16) :
    isTrail (UInt16.ofNat number) = true ↔ 0xDC00 ≤ number ∧ number < 0xE000 := by
  rw [isTrail, UInt16.toNat_ofNat_of_lt' fits, Bool.and_eq_true, decide_eq_true_eq,
    decide_eq_true_eq]

theorem decode_unit {unit : UInt16} (noLead : ¬ isLead unit = true)
    (noTrail : ¬ isTrail unit = true) (rest : List UInt16) :
    decode (unit :: rest) = (decode rest).map (Char.ofNat unit.toNat :: ·) := by
  rw [decode.eq_def]
  simp only [if_neg noLead, if_neg noTrail]

theorem decode_surrogates {lead trail : UInt16} (leads : isLead lead = true)
    (trails : isTrail trail = true) (rest : List UInt16) :
    decode (lead :: trail :: rest) =
      (decode rest).map (Char.ofNat (pairCode lead.toNat trail.toNat) :: ·) := by
  rw [decode.eq_def]
  simp only [if_pos leads, if_pos trails]

/-- A unit that is no surrogate is read as the character of its number. -/
theorem decode_single {character : Char} (single : character.toNat < 0x10000)
    (rest : List UInt16) :
    decode (UInt16.ofNat character.toNat :: rest) = (decode rest).map (character :: ·) := by
  have range := toNat_range character
  have noLead : ¬ isLead (UInt16.ofNat character.toNat) = true := by
    rw [isLead_ofNat single]
    omega
  have noTrail : ¬ isTrail (UInt16.ofNat character.toNat) = true := by
    rw [isTrail_ofNat single]
    omega
  rw [decode_unit noLead noTrail, UInt16.toNat_ofNat_of_lt' single, Char.ofNat_toNat]

/-- A pair of surrogates is read as the character it was made from. -/
theorem decode_pair {character : Char} (beyond : 0x10000 ≤ character.toNat)
    (rest : List UInt16) :
    decode (UInt16.ofNat (0xD800 + (character.toNat - 0x10000) / 0x400) ::
        UInt16.ofNat (0xDC00 + (character.toNat - 0x10000) % 0x400) :: rest) =
      (decode rest).map (character :: ·) := by
  have range := toNat_range character
  have leadFits : 0xD800 + (character.toNat - 0x10000) / 0x400 < 2 ^ 16 := by omega
  have trailFits : 0xDC00 + (character.toNat - 0x10000) % 0x400 < 2 ^ 16 := by omega
  have code : pairCode (0xD800 + (character.toNat - 0x10000) / 0x400)
      (0xDC00 + (character.toNat - 0x10000) % 0x400) = character.toNat := by
    unfold pairCode
    omega
  rw [decode_surrogates ((isLead_ofNat leadFits).2 (by omega))
      ((isTrail_ofNat trailFits).2 (by omega)), UInt16.toNat_ofNat_of_lt' leadFits,
    UInt16.toNat_ofNat_of_lt' trailFits, code, Char.ofNat_toNat]

theorem decode_encodeCharacter_append (character : Char) (rest : List UInt16) :
    decode (encodeCharacter character ++ rest) = (decode rest).map (character :: ·) := by
  rw [encodeCharacter]
  split
  · rename_i single
    exact decode_single single rest
  · rename_i beyond
    exact decode_pair (Nat.not_lt.1 beyond) rest

/-- A text is read back from its units. -/
theorem decode_encode (characters : List Char) : decode (encode characters) = some characters := by
  induction characters with
  | nil => rfl
  | cons character rest inductionHypothesis =>
    rw [encode, List.flatMap_cons, decode_encodeCharacter_append, ← encode, inductionHypothesis]
    rfl

/-- A text has a unit for every character, and one more for those that need a pair. -/
theorem length_encode (characters : List Char) :
    (encode characters).length =
      characters.length + characters.countP fun character => 0x10000 ≤ character.toNat := by
  induction characters with
  | nil => rfl
  | cons character rest inductionHypothesis =>
    rw [encode, List.flatMap_cons, List.length_append, ← encode, inductionHypothesis,
      List.length_cons, List.countP_cons, encodeCharacter]
    by_cases single : character.toNat < 0x10000
    · rw [if_pos single, if_neg (by rw [decide_eq_true_eq]; omega), List.length_singleton]
      omega
    · rw [if_neg single, if_pos (by rw [decide_eq_true_eq]; omega)]
      simp only [List.length_cons, List.length_nil]
      omega

end CardFormat.Text.Utf16
