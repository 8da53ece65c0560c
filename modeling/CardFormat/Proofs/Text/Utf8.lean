/-
This file proves that a text in UTF-8 is shown as itself: at the front of its bytes stands its
first character, whatever follows, and what is skipped behind it are the other bytes of this
character.
-/

import CardFormat.Text.Utf8

namespace CardFormat.Text.Utf8

theorem front_encodeCharacter (character : Char) (rest : List UInt8) :
    front (String.utf8EncodeChar character ++ rest) = some character := by
  have short : (String.utf8EncodeChar character).length ≤ 4 := by
    rw [String.length_utf8EncodeChar]
    exact character.utf8Size_le_four
  rw [front, List.take_append, List.take_of_length_le short, List.toByteArray_append]
  exact ByteArray.utf8DecodeChar?_utf8EncodeChar_append

theorem decodeBehind_append (skipped rest : List UInt8) :
    decodeBehind skipped.length (skipped ++ rest) = decodeBehind 0 rest := by
  induction skipped with
  | nil => rfl
  | cons byte others inductionHypothesis => exact inductionHypothesis

/-- A text is shown as itself. -/
theorem decode_encode (characters : List Char) : decode (encode characters) = characters := by
  induction characters with
  | nil => rfl
  | cons character rest inductionHypothesis =>
    have first := front_encodeCharacter character (encode rest)
    have size := String.length_utf8EncodeChar character
    rw [decode, encode, List.flatMap_cons, ← encode]
    cases bytes : String.utf8EncodeChar character with
    | nil =>
      rw [bytes, List.length_nil] at size
      exact absurd size (Nat.ne_of_lt character.utf8Size_pos)
    | cons byte others =>
      rw [bytes, List.cons_append] at first
      rw [bytes, List.length_cons] at size
      rw [List.cons_append, decodeBehind, first]
      simp only
      rw [← size, Nat.add_sub_cancel, decodeBehind_append]
      exact congrArg (character :: ·) inductionHypothesis

theorem toText_ofText (text : String) : toText (ofText text) = text := by
  rw [toText, ofText, decode_encode, String.ofList_toList]

end CardFormat.Text.Utf8
