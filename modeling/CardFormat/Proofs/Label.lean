/-
This file says which texts are FAT labels and what is stored of them. A text is a label
exactly if it is short enough, does not begin with a space, and has only characters of the
code page that are no control characters, no forbidden punctuation and no lowercase letters
beyond ASCII. What is stored is read back by the code page, up to the spaces that fill the
field, so two labels are stored alike exactly if they differ in trailing spaces only. The
stored name never begins with a byte that has a meaning of its own in a directory.
-/

import Mathlib
import CardFormat.Proofs.LabelWarnings

namespace CardFormat

/-! ### The code page -/

namespace Text.CodePage850

/-- A byte of the lower half stands for the character of its number. -/
theorem toNat_decode_of_lt {byte : UInt8} (low : byte.toNat < 0x80) :
    (decode byte).toNat = byte.toNat := by
  have lower : byte < 0x80 := UInt8.lt_iff_toNat_lt.2 low
  have valid : byte.toNat.isValidChar := .inl (Nat.lt_trans low (by decide))
  rw [decode, if_pos lower, Char.toNat_ofNat, if_pos valid]

/-- A byte of the upper half stands for the character at its place in the table. -/
theorem toNat_decode_of_le {byte : UInt8} (high : 0x80 ≤ byte.toNat)
    (inside : byte.toNat - 0x80 < upperHalf.length) :
    (decode byte).toNat = upperHalf[byte.toNat - 0x80] := by
  have upper : ¬ byte < 0x80 := by
    rw [UInt8.lt_iff_toNat_lt]
    exact Nat.not_lt.2 high
  have code := upperHalf_beyond_ascii _ (List.getElem_mem inside)
  rw [decode, if_neg upper, List.getD_eq_getElem _ _ inside, Char.toNat_ofNat,
    if_pos (.inl code.2)]

theorem place_lt (byte : UInt8) : byte.toNat - 0x80 < upperHalf.length := by
  have := byte.toNat_lt
  rw [length_upperHalf]
  omega

theorem toNat_ofNat_place {index : Nat} (inside : index < upperHalf.length) :
    (UInt8.ofNat (0x80 + index)).toNat = 0x80 + index := by
  rw [length_upperHalf] at inside
  exact UInt8.toNat_ofNat_of_lt' (by rw [UInt8.size]; omega)

/-- A character of the table is found at its place. -/
theorem findIdx_upperHalf {index : Nat} (inside : index < upperHalf.length) :
    upperHalf.findIdx? (· == upperHalf[index]) = some index := by
  refine List.findIdx?_eq_some_iff_getElem.2 ⟨inside, beq_self_eq_true _, ?_⟩
  intro earlier before same
  have equal := (List.Nodup.getElem_inj_iff nodup_upperHalf).1 (beq_iff_eq.1 same)
  exact Nat.ne_of_lt before equal

theorem encode_decode (byte : UInt8) : encode (decode byte) = some byte := by
  by_cases low : byte.toNat < 0x80
  · rw [encode, toNat_decode_of_lt low, if_pos low, UInt8.ofNat_toNat]
  · have high := Nat.not_lt.1 low
    have inside := place_lt byte
    have code := upperHalf_beyond_ascii _ (List.getElem_mem inside)
    rw [encode, toNat_decode_of_le high inside, if_neg (Nat.not_lt.2 code.1),
      findIdx_upperHalf inside, Option.map_some, Nat.add_sub_cancel' high, UInt8.ofNat_toNat]

theorem decode_of_encode {character : Char} {byte : UInt8}
    (encoded : encode character = some byte) : decode byte = character := by
  rw [encode] at encoded
  split at encoded
  · rename_i ascii
    cases encoded
    have toNat : (UInt8.ofNat character.toNat).toNat = character.toNat :=
      UInt8.toNat_ofNat_of_lt' (Nat.lt_trans ascii (by decide))
    rw [← Char.toNat_inj, toNat_decode_of_lt (by rw [toNat]; exact ascii), toNat]
  · obtain ⟨index, found, equal⟩ := Option.map_eq_some_iff.1 encoded
    obtain ⟨inside, same, -⟩ := List.findIdx?_eq_some_iff_getElem.1 found
    subst equal
    have toNat := toNat_ofNat_place inside
    have place : (UInt8.ofNat (0x80 + index)).toNat - 0x80 = index := by omega
    rw [← Char.toNat_inj, toNat_decode_of_le (by omega) (place_lt _)]
    simp only [place]
    exact beq_iff_eq.1 same

/-- The byte of a character is the one that stands for it. -/
theorem encode_eq_some_iff {character : Char} {byte : UInt8} :
    encode character = some byte ↔ decode byte = character := by
  refine ⟨decode_of_encode, ?_⟩
  rintro rfl
  exact encode_decode byte

theorem decode_injective : Function.Injective decode := by
  intro first second same
  have encoded := encode_decode first
  rw [same, encode_decode] at encoded
  exact (Option.some.inj encoded).symm

end Text.CodePage850

open Text.CodePage850

/-! ### The characters of a label -/

/-- The control characters, of ASCII and beyond. -/
def IsControl (character : Char) : Prop :=
  character.toNat < 0x20 ∨ 0x7F ≤ character.toNat ∧ character.toNat ≤ 0x9F

instance (character : Char) : Decidable (IsControl character) :=
  inferInstanceAs (Decidable (_ ∨ _))

/-- The punctuation no label may have. -/
def forbiddenPunctuation : List Char :=
  ['"', '*', '+', ',', '.', '/', ':', ';', '<', '=', '>', '?', '[', '\\', ']', '|']

/-- The characters a label may have. -/
structure IsLabelCharacter (character : Char) : Prop where
  in_code_page : ∃ byte, decode byte = character
  not_control : ¬ IsControl character
  not_forbidden : character ∉ forbiddenPunctuation
  not_lowercase : 0x80 ≤ character.toNat → Text.isLowercase character = false

instance (character : Char) : Decidable (IsLabelCharacter character) :=
  decidable_of_iff ((encode character).isSome ∧ ¬ IsControl character ∧
      character ∉ forbiddenPunctuation ∧
      (0x80 ≤ character.toNat → Text.isLowercase character = false)) <| by
    rw [Option.isSome_iff_exists]
    simp only [encode_eq_some_iff]
    exact ⟨fun ⟨inPage, control, forbidden, lowercase⟩ => ⟨inPage, control, forbidden, lowercase⟩,
      fun ⟨inPage, control, forbidden, lowercase⟩ => ⟨inPage, control, forbidden, lowercase⟩⟩

/-- The forbidden bytes are those of the control characters and the forbidden punctuation. The
upper half of the code page has neither. -/
theorem isForbiddenByte_iff (byte : UInt8) :
    isForbiddenByte byte = true ↔
      IsControl (decode byte) ∨ decode byte ∈ forbiddenPunctuation := by
  have table : ∀ code : Fin 256, isForbiddenByte (UInt8.ofNat code) = true ↔
      IsControl (decode (UInt8.ofNat code)) ∨
        decode (UInt8.ofNat code) ∈ forbiddenPunctuation := by
    decide +kernel
  have entry := table ⟨byte.toNat, byte.toNat_lt⟩
  rwa [UInt8.ofNat_toNat] at entry

/-- A character has a byte if a label may have it, and it is the byte that stands for it. -/
theorem encodeLabelCharacter_eq_ok_iff {character : Char} {byte : UInt8} :
    encodeLabelCharacter character = .ok byte ↔
      IsLabelCharacter character ∧ decode byte = character := by
  rw [encodeLabelCharacter]
  split
  · rename_i lowercase
    rw [Bool.and_eq_true, decide_eq_true_eq] at lowercase
    refine ⟨nofun, fun ⟨allowed, _⟩ => ?_⟩
    rw [allowed.not_lowercase lowercase.1] at lowercase
    cases lowercase.2
  · rename_i tolerated
    cases encoded : encode character with
    | none =>
      refine ⟨nofun, fun ⟨_, stands⟩ => ?_⟩
      rw [encode_eq_some_iff.2 stands] at encoded
      cases encoded
    | some other =>
      have stands := encode_eq_some_iff.1 encoded
      simp only
      split
      · rename_i forbidden
        rw [isForbiddenByte_iff, stands] at forbidden
        refine ⟨nofun, fun ⟨allowed, _⟩ => ?_⟩
        exact (forbidden.elim allowed.not_control allowed.not_forbidden).elim
      · rename_i unforbidden
        rw [isForbiddenByte_iff, stands, not_or] at unforbidden
        constructor
        · intro equal
          cases equal
          refine ⟨⟨⟨_, stands⟩, unforbidden.1, unforbidden.2, fun beyond => ?_⟩, stands⟩
          rw [Bool.and_eq_true, decide_eq_true_eq, not_and, Bool.not_eq_true] at tolerated
          exact tolerated beyond
        · rintro ⟨-, same⟩
          rw [decode_injective (stands.trans same.symm)]

/-- The bytes of the characters are those that stand for them, if a label may have them all. -/
theorem encodeLabelCharacters_eq_ok_iff {characters : List Char} {bytes : List UInt8} :
    encodeLabelCharacters characters = .ok bytes ↔
      (∀ character ∈ characters, IsLabelCharacter character) ∧ bytes.map decode = characters := by
  induction characters generalizing bytes with
  | nil =>
    rw [List.map_eq_nil_iff, encodeLabelCharacters, Except.ok.injEq, eq_comm]
    exact (and_iff_right (List.forall_mem_nil _)).symm
  | cons character rest inductionHypothesis =>
    rw [encodeLabelCharacters, List.forall_mem_cons, List.map_eq_cons_iff]
    simp only [Checked.bind_eq_ok_iff, encodeLabelCharacter_eq_ok_iff, inductionHypothesis,
      Checked.pure_eq_ok, Except.ok.injEq]
    constructor
    · rintro ⟨byte, ⟨allowed, stands⟩, tail, ⟨others, same⟩, rfl⟩
      exact ⟨⟨allowed, others⟩, byte, tail, rfl, stands, same⟩
    · rintro ⟨⟨allowed, others⟩, byte, tail, rfl, stands, same⟩
      exact ⟨byte, ⟨allowed, stands⟩, tail, ⟨others, same⟩, rfl⟩

/-! ### The texts that are labels -/

/-- The texts that are FAT labels. -/
structure IsFatText (text : String) : Prop where
  short : text.toList.length ≤ labelLimit
  no_leading_space : text.toList.head? ≠ some ' '
  allowed : ∀ character ∈ text.toList, IsLabelCharacter character

instance (text : String) : Decidable (IsFatText text) :=
  decidable_of_iff (text.toList.length ≤ labelLimit ∧ text.toList.head? ≠ some ' ' ∧
      text.toList.all fun character => decide (IsLabelCharacter character)) <| by
    simp only [List.all_eq_true, decide_eq_true_eq]
    exact ⟨fun ⟨short, unspaced, allowed⟩ => ⟨short, unspaced, allowed⟩,
      fun ⟨short, unspaced, allowed⟩ => ⟨short, unspaced, allowed⟩⟩

/-- The texts are the same if each is given the right number of spaces. -/
def AgreeUpToSpaces (text other : String) : Prop :=
  ∃ count otherCount, text.toList ++ List.replicate count ' ' =
    other.toList ++ List.replicate otherCount ' '

namespace FatLabel

/-- The label stands for the text: it has its text, and the bytes of its characters. -/
structure StandsFor (label : FatLabel) (text : String) : Prop where
  accepted : IsFatText text
  text_eq : label.text = text
  decoded : label.encoded.map decode = text.toList

/-- A text has a label if it is one, and it is the label that stands for it. -/
theorem ofText_eq_ok_iff {text : String} {label : FatLabel} :
    ofText text = .ok label ↔ label.StandsFor text := by
  unfold ofText
  split
  · rename_i long
    refine iff_of_false (fun equal => ?_) fun stands =>
      absurd stands.accepted.short (Nat.not_le.2 long)
    cases equal
  · rename_i short
    split
    · rename_i leading
      refine iff_of_false (fun equal => ?_) fun stands =>
        absurd leading stands.accepted.no_leading_space
      cases equal
    · rename_i unspaced
      split
      · rename_i objection refused
        refine iff_of_false (fun equal => ?_) fun stands => ?_
        · cases equal
        · have encoded := encodeLabelCharacters_eq_ok_iff.2
            ⟨stands.accepted.allowed, stands.decoded⟩
          cases refused.symm.trans encoded
      · rename_i bytes encoded
        obtain ⟨allowed, decoded⟩ := encodeLabelCharacters_eq_ok_iff.1 encoded
        constructor
        · intro equal
          cases equal
          exact ⟨⟨Nat.not_lt.1 short, unspaced, allowed⟩, rfl, decoded⟩
        · rintro ⟨-, textEq, same⟩
          obtain ⟨labelText, labelBytes, withinLimit⟩ := label
          have bytesEq := List.map_injective_iff.2 decode_injective (same.trans decoded.symm)
          simp only at textEq bytesEq
          subst textEq bytesEq
          rfl

/-- Every text that is a label has one. -/
theorem exists_standsFor {text : String} (accepted : IsFatText text) :
    ∃ label : FatLabel, label.StandsFor text := by
  have inRange : text.toList ∈ Set.range (List.map decode) := by
    rw [Set.range_list_map]
    exact fun character member => (accepted.allowed character member).in_code_page
  obtain ⟨bytes, decoded⟩ := inRange
  have short := accepted.short
  rw [← decoded, List.length_map] at short
  exact ⟨⟨text, bytes, short⟩, accepted, rfl, decoded⟩

/-! ### What is stored -/

theorem toList_padded (label : FatLabel) :
    label.padded.toList =
      label.encoded ++ List.replicate (labelLimit - label.encoded.length) 0x20 := rfl

/-- What a field holds of a text with enough spaces behind it is the padded text. -/
theorem take_append_spaces {characters : List Char} (short : characters.length ≤ labelLimit)
    {count : Nat} (enough : labelLimit - characters.length ≤ count) :
    (characters ++ List.replicate count ' ').take labelLimit =
      characters ++ List.replicate (labelLimit - characters.length) ' ' := by
  rw [List.take_append, List.take_of_length_le short, List.take_replicate, Nat.min_eq_left enough]

namespace StandsFor

variable {label : FatLabel} {text : String}

theorem length_encoded (stands : label.StandsFor text) :
    label.encoded.length = text.toList.length := by
  rw [← stands.decoded, List.length_map]

/-- The padded bytes read as the text and spaces. -/
theorem decode_padded (stands : label.StandsFor text) :
    label.padded.toList.map decode =
      text.toList ++ List.replicate (labelLimit - text.toList.length) ' ' := by
  rw [toList_padded, List.map_append, List.map_replicate, stands.decoded, stands.length_encoded]
  rfl

theorem isEmpty_iff (stands : label.StandsFor text) : label.isEmpty = true ↔ text.toList = [] := by
  rw [isEmpty, List.isEmpty_iff, ← stands.decoded, List.map_eq_nil_iff]

theorem isEmpty_eq_false (stands : label.StandsFor text) (present : text ≠ "") :
    label.isEmpty = false := by
  rw [← Bool.not_eq_true, stands.isEmpty_iff]
  exact fun nothing => present (String.toList_eq_nil_iff.1 nothing)

/-- The first byte stands for the first character. Without a character it is a space. -/
theorem decode_first (stands : label.StandsFor text) :
    decode label.padded[0] = text.toList.headD ' ' := by
  have head : label.padded.toList.head? = some label.padded[0] := by
    rw [List.head?_eq_getElem?, Vector.getElem?_toList, Vector.getElem?_eq_getElem]
  have first := congrArg List.head? stands.decode_padded
  rw [List.head?_map, head, Option.map_some, List.head?_append] at first
  cases characters : text.toList with
  | nil =>
    rw [characters] at first
    exact Option.some.inj first
  | cons character rest =>
    rw [characters] at first
    exact Option.some.inj first

/-- The first byte of a label that is not empty stands for a character that is no space. -/
theorem first_allowed (stands : label.StandsFor text) (filled : label.isEmpty = false) :
    IsLabelCharacter (decode label.padded[0]) ∧ decode label.padded[0] ≠ ' ' := by
  rw [← Bool.not_eq_true, stands.isEmpty_iff] at filled
  obtain ⟨character, rest, characters⟩ := List.exists_cons_of_ne_nil filled
  have unspaced := stands.accepted.no_leading_space
  have allowed := stands.accepted.allowed
  rw [stands.decode_first]
  rw [characters] at unspaced allowed ⊢
  exact ⟨allowed character List.mem_cons_self, fun space => unspaced (congrArg some space)⟩

theorem first_ne_space (stands : label.StandsFor text) (filled : label.isEmpty = false) :
    label.padded[0] ≠ 0x20 := fun space =>
  (stands.first_allowed filled).2 (congrArg decode space)

/-- The label is empty if its first byte is a space. -/
theorem isEmpty_iff_first (stands : label.StandsFor text) :
    label.isEmpty = true ↔ label.padded[0] = 0x20 := by
  constructor
  · intro empty
    apply decode_injective
    rw [stands.decode_first, stands.isEmpty_iff.1 empty]
    rfl
  · intro space
    by_contra filled
    exact stands.first_ne_space (eq_false_of_ne_true filled) space

/-- The first byte is no control character, also of an empty label. -/
theorem not_isControl_first (stands : label.StandsFor text) :
    ¬ IsControl (decode label.padded[0]) := by
  cases filled : label.isEmpty with
  | false => exact (stands.first_allowed filled).1.not_control
  | true =>
    rw [stands.decode_first, stands.isEmpty_iff.1 filled]
    decide

theorem first_ne_of_isControl (stands : label.StandsFor text) {byte : UInt8}
    (control : IsControl (decode byte)) : label.padded[0] ≠ byte := by
  rintro rfl
  exact stands.not_isControl_first control

/-- Two labels have the same bytes exactly if they agree up to spaces. -/
theorem padded_eq_iff {other : FatLabel} {otherText : String} (stands : label.StandsFor text)
    (otherStands : other.StandsFor otherText) :
    label.padded = other.padded ↔ AgreeUpToSpaces text otherText := by
  rw [← Vector.toList_inj, ← (List.map_injective_iff.2 decode_injective).eq_iff,
    stands.decode_padded, otherStands.decode_padded]
  constructor
  · intro same
    exact ⟨_, _, same⟩
  · rintro ⟨count, otherCount, same⟩
    -- With as many spaces again as the field is long, both texts reach beyond it.
    have longer : text.toList ++ List.replicate (count + labelLimit) ' ' =
        otherText.toList ++ List.replicate (otherCount + labelLimit) ' ' := by
      rw [List.replicate_add, List.replicate_add, ← List.append_assoc, ← List.append_assoc, same]
    have field := congrArg (List.take labelLimit) longer
    rwa [take_append_spaces stands.accepted.short (by omega),
      take_append_spaces otherStands.accepted.short (by omega)] at field

end StandsFor

/-! ### The name in a directory -/

/-- The byte a directory has for the first byte of a name. -/
def escapeMarker (byte : UInt8) : UInt8 := if byte = 0xE5 then 0x05 else byte

/-- Of bytes that are no 0x05, the escape confuses none. -/
theorem escapeMarker_inj {byte other : UInt8} (unused : byte ≠ 0x05) (otherUnused : other ≠ 0x05) :
    escapeMarker byte = escapeMarker other ↔ byte = other := by
  refine ⟨fun same => ?_, congrArg escapeMarker⟩
  rw [escapeMarker, escapeMarker] at same
  split at same
  · split at same
    · rename_i marker otherMarker
      rw [marker, otherMarker]
    · exact absurd same.symm otherUnused
  · split at same
    · exact absurd same unused
    · exact same

/-- The name is the padded label, with its first byte escaped. -/
theorem entryName_eq {label : FatLabel} (filled : label.isEmpty = false) :
    ∃ name, label.entryName = some name ∧ name[0] = escapeMarker label.padded[0] ∧
      ∀ index (inside : index < labelLimit), 0 < index → name[index] = label.padded[index] := by
  have entry : label.entryName = some (if label.padded[0] = 0xE5 then
      label.padded.set 0 0x05 (by decide) else label.padded) := by
    rw [entryName, filled]
    rfl
  refine ⟨_, entry, ?_⟩
  rw [escapeMarker]
  by_cases marker : label.padded[0] = 0xE5
  · rw [if_pos marker, if_pos marker]
    refine ⟨Vector.getElem_set_self _, fun index inside behind => ?_⟩
    exact Vector.getElem_set_ne _ inside (Nat.ne_of_lt behind)
  · rw [if_neg marker, if_neg marker]
    exact ⟨rfl, fun _ _ _ => rfl⟩

/-- Only the empty label has no name. -/
theorem isNone_entryName (label : FatLabel) : label.entryName.isNone = label.isEmpty := by
  rw [entryName]
  cases label.isEmpty with
  | false => rfl
  | true => rfl

namespace StandsFor

variable {label other : FatLabel} {text otherText : String}

/-- No directory reads a meaning of its own from the first byte of the name. -/
theorem escapeMarker_first_notMem (stands : label.StandsFor text)
    (filled : label.isEmpty = false) :
    escapeMarker label.padded[0] ∉ ([0x00, 0x20, 0xE5] : List UInt8) := by
  rw [escapeMarker]
  split
  · decide
  · rename_i unmarked
    have used : label.padded[0] ≠ 0x00 := stands.first_ne_of_isControl (by decide)
    simp only [List.mem_cons, List.not_mem_nil, or_false, not_or]
    exact ⟨used, stands.first_ne_space filled, unmarked⟩

/-- Labels that are not empty have the same name only if they have the same bytes. -/
theorem padded_eq_of_entryName (stands : label.StandsFor text)
    (otherStands : other.StandsFor otherText) (filled : label.isEmpty = false)
    (otherFilled : other.isEmpty = false) (same : label.entryName = other.entryName) :
    label.padded = other.padded := by
  obtain ⟨name, found, first, behind⟩ := entryName_eq filled
  obtain ⟨otherName, otherFound, otherFirst, otherBehind⟩ := entryName_eq otherFilled
  rw [found, otherFound, Option.some.injEq] at same
  subst same
  have firsts : label.padded[0] = other.padded[0] :=
    (escapeMarker_inj (stands.first_ne_of_isControl (by decide))
      (otherStands.first_ne_of_isControl (by decide))).1 (first.symm.trans otherFirst)
  refine Vector.ext fun index inside => ?_
  rcases Nat.eq_zero_or_pos index with rfl | positive
  · exact firsts
  · exact (behind index inside positive).symm.trans (otherBehind index inside positive)

/-- Two labels have the same name in a directory exactly if they agree up to spaces. -/
theorem entryName_eq_iff (stands : label.StandsFor text) (otherStands : other.StandsFor otherText) :
    label.entryName = other.entryName ↔ AgreeUpToSpaces text otherText := by
  rw [← stands.padded_eq_iff otherStands]
  constructor
  · intro same
    have empty : label.isEmpty = other.isEmpty := by
      rw [← isNone_entryName, ← isNone_entryName, same]
    cases filled : label.isEmpty with
    | true =>
      refine (stands.padded_eq_iff otherStands).2 ⟨0, 0, ?_⟩
      rw [stands.isEmpty_iff.1 filled, otherStands.isEmpty_iff.1 (empty ▸ filled)]
    | false => exact stands.padded_eq_of_entryName otherStands filled (empty ▸ filled) same
  · intro same
    have empty : label.isEmpty = other.isEmpty := by
      rw [Bool.eq_iff_iff, stands.isEmpty_iff_first, otherStands.isEmpty_iff_first, same]
    rw [entryName, entryName, empty, same]

end StandsFor

theorem bootField_of_filled {label : FatLabel} (filled : label.isEmpty = false) :
    label.bootField = label.padded := by
  rw [bootField, if_neg (ne_true_of_eq_false filled)]

/-- What is stored of a text, where there is one: the boot sector has the text and spaces, and the
directory the same bytes, with the first escaped so that it has no meaning of its own. -/
structure Keeps (label : FatLabel) (text : String) : Prop where
  field : label.bootField.toList.map decode =
    text.toList ++ List.replicate (labelLimit - text.toList.length) ' '
  name : ∃ name, label.entryName = some name ∧
    name[0] = escapeMarker label.bootField[0] ∧
    (∀ index (inside : index < labelLimit), 0 < index → name[index] = label.bootField[index]) ∧
    name[0] ∉ ([0x00, 0x20, 0xE5] : List UInt8)

theorem StandsFor.keeps {label : FatLabel} {text : String} (stands : label.StandsFor text)
    (filled : label.isEmpty = false) : label.Keeps text := by
  obtain ⟨name, found, first, behind⟩ := entryName_eq filled
  constructor
  · rw [bootField_of_filled filled, stands.decode_padded]
  · rw [bootField_of_filled filled]
    refine ⟨name, found, first, behind, ?_⟩
    rw [first]
    exact stands.escapeMarker_first_notMem filled

end FatLabel

/-! ### Labels for a FAT filesystem -/

namespace Label

variable {filesystem : Filesystem}

/-- The FAT filesystems store the label of a text, or refuse it with the objection to it. -/
theorem forFilesystem_of_fat (isFat : filesystem ≠ .exFat) (text : String) :
    forFilesystem filesystem (some text) =
      match FatLabel.ofText text with
      | .ok label => .ok (.fat label)
      | .error objection => .error (.invalidArgument (.label text objection)) := by
  cases filesystem with
  | exFat => exact absurd rfl isFat
  | _ =>
    simp only [forFilesystem, Option.getD_some]
    cases FatLabel.ofText text with
    | error objection => rfl
    | ok label => rfl

theorem forFilesystem_eq_ok_iff (isFat : filesystem ≠ .exFat) {text : String} {label : FatLabel} :
    forFilesystem filesystem (some text) = .ok (.fat label) ↔ label.StandsFor text := by
  rw [forFilesystem_of_fat isFat, ← FatLabel.ofText_eq_ok_iff]
  cases FatLabel.ofText text with
  | error objection => exact ⟨nofun, nofun⟩
  | ok accepted => simp only [Except.ok.injEq, Label.fat.injEq]

/-- A text that is no label is refused with an objection. -/
theorem forFilesystem_of_not (isFat : filesystem ≠ .exFat) {text : String}
    (refused : ¬ IsFatText text) :
    ∃ objection, forFilesystem filesystem (some text) =
      .error (.invalidArgument (.label text objection)) := by
  rw [forFilesystem_of_fat isFat]
  cases outcome : FatLabel.ofText text with
  | error objection => exact ⟨objection, rfl⟩
  | ok label => exact absurd (FatLabel.ofText_eq_ok_iff.1 outcome).accepted refused

/-- A label with a lowercase letter of ASCII has one warning, and any other has none. -/
theorem warnings_of_standsFor {label : FatLabel} {text : String} (stands : label.StandsFor text) :
    label.warnings =
      if text.toList.any Char.isLower then [.lowercaseLabel text] else [] := by
  have lower : isAsciiLowercase = Char.isLower := rfl
  rw [FatLabel.warnings, stands.text_eq, lower]

/-- A FAT filesystem takes exactly the texts that are labels, and keeps them. A text that is none
is refused, and what warnings there were stay as they are; a label with a lowercase letter
of ASCII is taken with one warning more, and any other with none. The boot sector and the directory
have the text and spaces, the directory with the first byte escaped, and two labels are stored
alike only if they agree up to spaces. -/
theorem forFilesystem_keeps_text (isFat : filesystem ≠ .exFat) (text : String) :
    (¬ IsFatText text →
      ∃ objection, forFilesystem filesystem (some text) =
          .error (.invalidArgument (.label text objection)) ∧
        ∀ notes, accept filesystem (some text) notes =
          .error (.invalidArgument (.label text objection)) notes) ∧
    (IsFatText text →
      ∃ label : FatLabel, forFilesystem filesystem (some text) = .ok (.fat label) ∧
        (∀ notes, accept filesystem (some text) notes = .ok (.fat label) (notes ++
          if text.toList.any Char.isLower then [.lowercaseLabel text] else [])) ∧
        (text ≠ "" → label.Keeps text) ∧
        ∀ (other : String) (otherLabel : FatLabel),
          forFilesystem filesystem (some other) = .ok (.fat otherLabel) →
            (label.entryName = otherLabel.entryName ↔ AgreeUpToSpaces text other) ∧
            (text ≠ "" → other ≠ "" →
              (label.bootField = otherLabel.bootField ↔ AgreeUpToSpaces text other))) := by
  constructor
  · intro refused
    obtain ⟨objection, outcome⟩ := forFilesystem_of_not isFat refused
    exact ⟨objection, outcome, fun notes => by rw [accept_eq, outcome]⟩
  · intro accepted
    obtain ⟨label, stands⟩ := FatLabel.exists_standsFor accepted
    have outcome := (forFilesystem_eq_ok_iff isFat).2 stands
    refine ⟨label, outcome, ?_, fun present => stands.keeps (stands.isEmpty_eq_false present), ?_⟩
    · intro notes
      rw [accept_eq, outcome, ← warnings_of_standsFor stands]
      rfl
    · intro other otherLabel otherOutcome
      have otherStands := (forFilesystem_eq_ok_iff isFat).1 otherOutcome
      refine ⟨stands.entryName_eq_iff otherStands, fun present otherPresent => ?_⟩
      rw [FatLabel.bootField_of_filled (stands.isEmpty_eq_false present),
        FatLabel.bootField_of_filled (otherStands.isEmpty_eq_false otherPresent)]
      exact stands.padded_eq_iff otherStands

/-- A label whose first byte would mark a free entry is kept, with a warning for its lowercase
letter, and stored as with two spaces behind it. -/
theorem forFilesystem_keeps_marker :
    Filesystem.fat16 ≠ .exFat ∧ IsFatText "Õk" ∧
      ∃ label otherLabel : FatLabel, forFilesystem .fat16 (some "Õk") = .ok (.fat label) ∧
        accept .fat16 (some "Õk") [] = .ok (.fat label) [.lowercaseLabel "Õk"] ∧
        label.bootField.toList.map decode = "Õk         ".toList ∧
        forFilesystem .fat16 (some "Õk  ") = .ok (.fat otherLabel) ∧
        label.entryName = otherLabel.entryName := by
  have isFat : Filesystem.fat16 ≠ .exFat := by decide
  have accepted : IsFatText "Õk" := by decide +kernel
  have otherAccepted : IsFatText "Õk  " := by decide +kernel
  obtain ⟨label, taken, warned, keeps, alike⟩ :=
    (forFilesystem_keeps_text isFat "Õk").2 accepted
  obtain ⟨otherLabel, otherTaken, -⟩ := (forFilesystem_keeps_text isFat "Õk  ").2 otherAccepted
  refine ⟨isFat, accepted, label, otherLabel, taken, ?_, ?_, otherTaken, ?_⟩
  · rw [warned, if_pos (by decide +kernel), List.nil_append]
  · rw [(keeps (by decide)).field]
    decide +kernel
  · exact (alike _ otherLabel otherTaken).1.2 ⟨2, 0, by decide +kernel⟩

end Label

end CardFormat
