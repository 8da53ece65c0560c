/-
This file proves that an exFAT label is read back from its entry in the root directory. The
entry counts units, of which a character may have two, so a text is a label if it has few
enough units, however many characters these are. Behind the units that are counted the entry
is zero.
-/

import CardFormat.Label
import CardFormat.ExFat.DirectoryEntry
import CardFormat.Proofs.Bytes.Sector
import CardFormat.Proofs.Text.Utf16

namespace CardFormat.ExFat

/-! ### The bytes of the entry -/

theorem length_padEntry {bytes : List UInt8} (short : bytes.length ≤ 32) :
    (padEntry bytes).length = 32 := by
  rw [padEntry, List.length_append, List.length_replicate, Nat.add_sub_cancel' short]

/-- The bytes of the units are a row of numbers, of two bytes each. -/
theorem units_row (units : List UInt16) :
    units.flatMap LittleEndian.word16 =
      (units.map UInt16.toNat).flatMap (LittleEndian.encode 2) := by
  rw [List.flatMap_map]
  rfl

theorem length_units (units : List UInt16) :
    (units.flatMap LittleEndian.word16).length = units.length * 2 := by
  rw [units_row, Sector.length_row, List.length_map]

theorem length_labelEntry (units : List UInt16) : (labelEntry units).length = 32 := by
  refine length_padEntry ?_
  have few : (units.take labelLimit).length ≤ 11 := List.length_take_le _ _
  rw [List.length_cons, List.length_cons, length_units]
  omega

section Entry

variable {units : List UInt16}

/-- An entry has all units of a label, and zeros behind them. -/
theorem labelEntry_eq (few : units.length ≤ labelLimit) :
    labelEntry units = 0x83 :: UInt8.ofNat units.length :: (units.flatMap LittleEndian.word16 ++
      List.replicate (30 - 2 * units.length) 0) := by
  rw [labelEntry, padEntry, List.take_of_length_le few]
  rw [List.length_cons, List.length_cons, length_units, List.cons_append, List.cons_append,
    show 32 - (units.length * 2 + 1 + 1) = 30 - 2 * units.length by omega]

theorem toNat_count (few : units.length ≤ labelLimit) :
    (UInt8.ofNat units.length).toNat = units.length :=
  UInt8.toNat_ofNat_of_lt' (Nat.lt_of_le_of_lt few (by decide))

/-- Each unit is read back from the bytes of all. -/
theorem readNumber_units {index : Nat} (inside : index < units.length) (rest : List UInt8) :
    Sector.readNumber (units.flatMap LittleEndian.word16 ++ rest) (2 * index) 2 =
      units[index].toNat := by
  have length_eq := length_units units
  have found : (units.map UInt16.toNat)[index]? = some units[index].toNat := by
    rw [List.getElem?_map, List.getElem?_eq_getElem inside, Option.map_some]
  rw [Sector.readNumber, Sector.read_append_left (by omega), units_row, Nat.mul_comm]
  exact Sector.readNumber_row found units[index].toNat_lt

/-- The units of a label are read back. -/
theorem labelUnits_labelEntry (few : units.length ≤ labelLimit) :
    labelUnits (labelEntry units) = units := by
  rw [labelEntry_eq few, labelUnits, toNat_count few]
  refine List.ext_getElem (by rw [List.length_map, List.length_range]) ?_
  intro index _ inside
  rw [List.getElem_map, List.getElem_range, readNumber_units inside, UInt16.ofNat_toNat]

/-- Behind the units that are counted there are only zeros. -/
theorem drop_labelEntry (few : units.length ≤ labelLimit) :
    (labelEntry units).drop (2 + 2 * units.length) =
      List.replicate (30 - 2 * units.length) 0 := by
  rw [labelEntry_eq few, Nat.add_comm, List.drop_succ_cons, List.drop_succ_cons, Nat.mul_comm,
    List.drop_left' (length_units units)]

end Entry

end CardFormat.ExFat

namespace CardFormat

/-! ### Labels -/

/-- What an exFAT label keeps of its text: the units, and an entry that counts them, has zeros
behind them, and is read as the text. -/
structure ExFatLabel.Keeps (label : ExFatLabel) (text : String) : Prop where
  text_eq : label.text = text
  units_eq : label.units = Text.Utf16.encode text.toList
  units_le : label.units.length ≤ 11
  length_units : label.units.length =
    text.toList.length + text.toList.countP fun character => 0x10000 ≤ character.toNat
  length_entry : (ExFat.labelEntry label.units).length = 32
  count : (ExFat.labelEntry label.units)[1]? = some (UInt8.ofNat label.units.length)
  zeros : (ExFat.labelEntry label.units).drop (2 + 2 * label.units.length) =
    List.replicate (30 - 2 * label.units.length) 0
  reads : ExFat.readLabel (ExFat.labelEntry label.units) = some text

namespace ExFatLabel

/-- A text with few enough units has a label, which keeps it. -/
theorem ofText_of_short {text : String}
    (short : (Text.Utf16.encode text.toList).length ≤ labelLimit) :
    ∃ label : ExFatLabel, ofText text = .ok label ∧ label.Keeps text := by
  refine ⟨⟨text, Text.Utf16.encode text.toList, short⟩, dif_neg (Nat.not_lt.2 short), ?_⟩
  exact {
    text_eq := rfl
    units_eq := rfl
    units_le := short
    length_units := Text.Utf16.length_encode text.toList
    length_entry := ExFat.length_labelEntry _
    count := by
      rw [ExFat.labelEntry_eq short]
      rfl
    zeros := ExFat.drop_labelEntry short
    reads := by
      rw [ExFat.readLabel, ExFat.labelUnits_labelEntry short, Text.Utf16.decode_encode,
        Option.map_some, String.ofList_toList] }

theorem ofText_of_long {text : String}
    (long : labelLimit < (Text.Utf16.encode text.toList).length) :
    ofText text = .error (.tooManyUnits (Text.Utf16.encode text.toList).length) :=
  dif_pos long

end ExFatLabel

namespace Label

/-- An exFAT filesystem stores the label of a text, or refuses it with the objection to it. -/
theorem forFilesystem_exFat (text : String) :
    forFilesystem .exFat (some text) =
      match ExFatLabel.ofText text with
      | .ok label => .ok (.exFat label)
      | .error objection => .error (.invalidArgument (.label text objection)) := by
  simp only [forFilesystem, Option.getD_some]
  cases ExFatLabel.ofText text with
  | error objection => rfl
  | ok label => rfl

theorem forFilesystem_exFat_of_short {text : String}
    (short : (Text.Utf16.encode text.toList).length ≤ labelLimit) :
    ∃ label : ExFatLabel, forFilesystem .exFat (some text) = .ok (.exFat label) ∧
      label.Keeps text := by
  obtain ⟨label, accepted, keeps⟩ := ExFatLabel.ofText_of_short short
  exact ⟨label, by rw [forFilesystem_exFat, accepted], keeps⟩

theorem forFilesystem_exFat_of_long {text : String}
    (long : labelLimit < (Text.Utf16.encode text.toList).length) :
    forFilesystem .exFat (some text) = .error (.invalidArgument
      (.label text (.tooManyUnits (Text.Utf16.encode text.toList).length))) := by
  rw [forFilesystem_exFat, ExFatLabel.ofText_of_long long]

/-- Whatever label is taken keeps its text. -/
theorem keeps_of_forFilesystem {text : String} {label : ExFatLabel}
    (taken : forFilesystem .exFat (some text) = .ok (.exFat label)) : label.Keeps text := by
  by_cases short : (Text.Utf16.encode text.toList).length ≤ labelLimit
  · obtain ⟨same, accepted, keeps⟩ := forFilesystem_exFat_of_short short
    rw [taken] at accepted
    cases accepted
    exact keeps
  · rw [forFilesystem_exFat_of_long (Nat.not_le.1 short)] at taken
    cases taken

/-- An exFAT filesystem takes exactly the texts of at most eleven units, and keeps them: from the
entry of the label, and nothing else, the text is read back. So the entries of different labels
are different. A longer text is refused. -/
theorem forFilesystem_exFat_reads_back (text : String) :
    (11 < (Text.Utf16.encode text.toList).length →
      ∃ objection, forFilesystem .exFat (some text) =
        .error (.invalidArgument (.label text objection))) ∧
    ((Text.Utf16.encode text.toList).length ≤ 11 →
      ∃ label : ExFatLabel, forFilesystem .exFat (some text) = .ok (.exFat label) ∧
        label.Keeps text ∧
        ∀ (other : String) (otherLabel : ExFatLabel),
          forFilesystem .exFat (some other) = .ok (.exFat otherLabel) → text ≠ other →
            ExFat.labelEntry label.units ≠ ExFat.labelEntry otherLabel.units) := by
  refine ⟨fun long => ⟨_, forFilesystem_exFat_of_long long⟩, fun short => ?_⟩
  obtain ⟨label, taken, keeps⟩ := forFilesystem_exFat_of_short short
  refine ⟨label, taken, keeps, fun other otherLabel otherTaken differ same => differ ?_⟩
  have otherReads := (keeps_of_forFilesystem otherTaken).reads
  rw [← same, keeps.reads] at otherReads
  exact Option.some.inj otherReads

/-- Ten characters of which the last needs a pair fill the entry. With one character more the pair
would reach beyond it. -/
theorem forFilesystem_exFat_reads_back_pair :
    (∃ label : ExFatLabel, forFilesystem .exFat (some "abcdefghi𝄞") = .ok (.exFat label) ∧
        label.units.length = 11 ∧
        ExFat.readLabel (ExFat.labelEntry label.units) = some "abcdefghi𝄞") ∧
      ∃ objection, forFilesystem .exFat (some "abcdefghij𝄞") =
        .error (.invalidArgument (.label "abcdefghij𝄞" objection)) := by
  obtain ⟨label, taken, keeps, -⟩ :=
    (forFilesystem_exFat_reads_back "abcdefghi𝄞").2 (by decide +kernel)
  refine ⟨⟨label, taken, ?_, keeps.reads⟩,
    (forFilesystem_exFat_reads_back "abcdefghij𝄞").1 (by decide +kernel)⟩
  rw [keeps.length_units]
  decide +kernel

end Label

end CardFormat
