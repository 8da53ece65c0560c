/-
This file relates how a label is taken, with its warnings, to what the label is. The checks come
first: as long as they last, no warning is given, and a refusal leaves the warnings that were
there before. A label that has passed adds its own behind them.
-/

import CardFormat.Format.Run
import CardFormat.Proofs.Attempt

namespace CardFormat

namespace FatLabel

variable {characters : List Char} {text : String}

/-- Where a character is refused, no warning was given for those in front of it. -/
theorem encodeNoting_of_error {objection : LabelObjection}
    (refused : encodeLabelCharacters characters = .error objection) (lowercase : Bool)
    (notes : List Warning) : encodeNoting characters lowercase notes = .error objection notes := by
  induction characters generalizing lowercase with
  | nil => cases refused
  | cons character rest inductionHypothesis =>
    rw [encodeLabelCharacters] at refused
    simp only [encodeNoting, bind, EStateM.bind]
    cases first : encodeLabelCharacter character with
    | error found =>
      rw [first] at refused
      cases refused
      rfl
    | ok byte =>
      rw [first] at refused
      cases others : encodeLabelCharacters rest with
      | error found =>
        rw [others] at refused
        cases refused
        simp only [MonadExcept.ofExcept, pure, EStateM.pure, inductionHypothesis others]
      | ok bytes =>
        rw [others] at refused
        cases refused

/-- Where all characters pass there is no warning yet, but it is known whether one is due. -/
theorem encodeNoting_of_ok {bytes : List UInt8}
    (accepted : encodeLabelCharacters characters = .ok bytes) (lowercase : Bool)
    (notes : List Warning) :
    encodeNoting characters lowercase notes =
      .ok (⟨bytes, length_encodeLabelCharacters accepted⟩,
        lowercase || characters.any isAsciiLowercase) notes := by
  induction characters generalizing bytes lowercase with
  | nil =>
    cases accepted
    simp only [List.any_nil, Bool.or_false]
    rfl
  | cons character rest inductionHypothesis =>
    rw [encodeLabelCharacters] at accepted
    simp only [encodeNoting, bind, EStateM.bind]
    cases first : encodeLabelCharacter character with
    | error found =>
      rw [first] at accepted
      cases accepted
    | ok byte =>
      rw [first] at accepted
      cases others : encodeLabelCharacters rest with
      | error found =>
        rw [others] at accepted
        cases accepted
      | ok tail =>
        rw [others] at accepted
        cases accepted
        simp only [MonadExcept.ofExcept, pure, EStateM.pure, inductionHypothesis others,
          List.any_cons, Bool.or_assoc]

/-- A text is taken as the label it is, and its warnings come behind those there were. -/
theorem accept_eq (text : String) (notes : List Warning) :
    accept text notes = match ofText text with
      | .error objection => .error objection notes
      | .ok label => .ok label (notes ++ label.warnings) := by
  generalize whole : ofText text = result
  rw [ofText] at whole
  rw [accept]
  split at whole
  next long =>
    subst whole
    rw [dif_pos long]
    rfl
  next short =>
    rw [dif_neg short]
    split at whole
    next leading =>
      subst whole
      rw [if_pos leading]
      rfl
    next unspaced =>
      rw [if_neg unspaced]
      simp only [bind, EStateM.bind]
      split at whole
      next objection refused =>
        subst whole
        simp only [encodeNoting_of_error refused]
      next bytes accepted =>
        subst whole
        simp only [encodeNoting_of_ok accepted, Bool.false_or, warnings]
        cases text.toList.any isAsciiLowercase with
        | false => simp only [Bool.false_eq_true, if_false, List.append_nil, pure, EStateM.pure]
        | true => rfl

end FatLabel

namespace Label

/-- A label is taken as it is for its filesystem. A refusal gives no warning. -/
theorem accept_eq (filesystem : Filesystem) (text : Option String) (notes : List Warning) :
    accept filesystem text notes = match forFilesystem filesystem text with
      | .error error => .error error notes
      | .ok label => .ok label (notes ++ label.warnings) := by
  cases filesystem with
  | exFat =>
    simp only [accept, forFilesystem, bind, EStateM.bind, EStateM.adaptExcept]
    cases ExFatLabel.ofText (text.getD "") with
    | error objection => rfl
    | ok label =>
      show EStateM.Result.ok (exFat label) notes = .ok (exFat label) (notes ++ [])
      rw [List.append_nil]
  | _ =>
    simp only [accept, forFilesystem, bind, EStateM.bind, EStateM.adaptExcept, FatLabel.accept_eq]
    cases FatLabel.ofText (text.getD "") with
    | error objection => rfl
    | ok label => rfl

end Label

end CardFormat
