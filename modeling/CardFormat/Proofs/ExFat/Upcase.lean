/-
This file proves that a table is read back from its compressed form, however it was cut up.
Any unit but the mark may be stored as it is, and any stretch of units that are their own upper
case as its length, also a stretch of no units and one that is as long as a length can tell. A
mark is stored at the very end only. What a stored unit means depends on the place it has in the
table and on the unit before it, so the cut of the rest of a table is a cut from a place on.
-/

import CardFormat.ExFat.Upcase

namespace CardFormat.ExFat

/-- The segments are a way to cut up the entries of a table from a place on. -/
inductive Cuts : (place : Nat) → List Segment → (entries : List UInt16) → Prop where
  | nothing {place : Nat} : Cuts place [] []
  | units {place : Nat} {values entries : List UInt16} {segments : List Segment}
    (unmarked : stretchMark ∉ values)
    (rest : Cuts (place + values.length) segments entries) :
    Cuts place (.units values :: segments) (values ++ entries)
  | identity {place : Nat} {length : UInt16} {stretch entries : List UInt16}
    {segments : List Segment} (length_eq : stretch.length = length.toNat)
    (own : ∀ index (inside : index < stretch.length), stretch[index].toNat = place + index)
    (rest : Cuts (place + stretch.length) segments entries) :
    Cuts place (.identity length :: segments) (stretch ++ entries)

/-! ### Units and bytes -/

theorem unitsOfBytes_word16 (unit : UInt16) (bytes : List UInt8) :
    unitsOfBytes (LittleEndian.word16 unit ++ bytes) = unit :: unitsOfBytes bytes := by
  have number := LittleEndian.decode_word16 unit
  simp only [LittleEndian.word16, LittleEndian.encode, LittleEndian.decode, Nat.mul_zero,
    Nat.add_zero] at number
  simp only [LittleEndian.word16, LittleEndian.encode, List.cons_append, List.nil_append,
    unitsOfBytes, number, UInt16.ofNat_toNat]

/-- Units are read back from their bytes, and a byte behind them is none. -/
theorem unitsOfBytes_unitBytes (units : List UInt16) {rest : List UInt8}
    (short : rest.length ≤ 1) : unitsOfBytes (unitBytes units ++ rest) = units := by
  induction units with
  | nil =>
    match rest, short with
    | [], _ => rfl
    | [_], _ => rfl
  | cons unit units inductionHypothesis =>
    rw [unitBytes, List.flatMap_cons, List.append_assoc, unitsOfBytes_word16]
    exact congrArg _ inductionHypothesis

/-! ### What stored units stand for -/

theorem expandUnits_cons {unit : UInt16} (unmarked : unit ≠ stretchMark) (table : Array UInt16)
    (rest : List UInt16) :
    expandUnits table (unit :: rest) = expandUnits (table.push unit) rest := by
  cases rest with
  | nil => rfl
  | cons next rest => rw [expandUnits, if_neg unmarked]

/-- Units that are no marks stand for themselves. -/
theorem expandUnits_units {values : List UInt16} (unmarked : stretchMark ∉ values)
    (front rest : List UInt16) :
    expandUnits front.toArray (values ++ rest) = expandUnits (front ++ values).toArray rest := by
  induction values generalizing front with
  | nil => rw [List.nil_append, List.append_nil]
  | cons value values inductionHypothesis =>
    rw [List.mem_cons, not_or] at unmarked
    rw [List.cons_append, expandUnits_cons (Ne.symm unmarked.1), List.push_toArray,
      inductionHypothesis unmarked.2, List.append_assoc, List.singleton_append]

/-- A mark and a length stand for the stretch of that length at this place. -/
theorem expandUnits_stretch (front rest : List UInt16) (length : UInt16) :
    expandUnits front.toArray (stretchMark :: length :: rest) =
      expandUnits (front ++ identityUnits front.length length.toNat).toArray rest := by
  rw [expandUnits, if_pos rfl, List.toArray_appendList]
  rfl

theorem length_identityUnits (place length : Nat) :
    (identityUnits place length).length = length := by
  rw [identityUnits, List.length_map, List.length_range']

theorem toNat_identityUnits {place length : Nat} (fits : place + length ≤ 65536) (index : Nat)
    (inside : index < (identityUnits place length).length) :
    (identityUnits place length)[index].toNat = place + index := by
  have before := inside
  rw [length_identityUnits] at before
  simp only [identityUnits, List.getElem_map, List.getElem_range', Nat.one_mul]
  exact UInt16.toNat_ofNat_of_lt' (Nat.lt_of_lt_of_le (Nat.add_lt_add_left before place) fits)

/-- There is only one stretch of units that are their own upper case. -/
theorem eq_identityUnits {place length : Nat} {stretch : List UInt16}
    (length_eq : stretch.length = length)
    (own : ∀ index (inside : index < stretch.length), stretch[index].toNat = place + index) :
    stretch = identityUnits place length := by
  apply List.ext_getElem
  · rw [length_eq, length_identityUnits]
  · intro index inside _
    simp only [identityUnits, List.getElem_map, List.getElem_range', Nat.one_mul,
      ← own index inside, UInt16.ofNat_toNat]

/-- The stored units of a cut stand for the entries that were cut up. -/
theorem expandUnits_of_cuts {place : Nat} {segments : List Segment} {entries : List UInt16}
    (cuts : Cuts place segments entries) (front rest : List UInt16)
    (place_eq : front.length = place) :
    expandUnits front.toArray (segments.flatMap Segment.stored ++ rest) =
      expandUnits (front ++ entries).toArray rest := by
  -- The place of the cut is the length of what is there already, which grows with each segment.
  induction cuts generalizing front with
  | nothing => rw [List.flatMap_nil, List.nil_append, List.append_nil]
  | @units place values entries segments unmarked _ inductionHypothesis =>
    rw [List.flatMap_cons, Segment.stored, List.append_assoc, expandUnits_units unmarked,
      inductionHypothesis _ (by rw [List.length_append, place_eq]), List.append_assoc]
  | @identity place length stretch entries segments length_eq own _ inductionHypothesis =>
    have stretch_eq := eq_identityUnits length_eq own
    rw [List.flatMap_cons, Segment.stored, List.append_assoc, List.cons_append,
      List.singleton_append, expandUnits_stretch, place_eq, ← stretch_eq,
      inductionHypothesis _ (by rw [List.length_append, place_eq]), List.append_assoc]

/-- At the end a mark stands for itself. -/
theorem expandUnits_final {final : List UInt16} (ends : final = [] ∨ final = [stretchMark])
    (front : List UInt16) : expandUnits front.toArray final = (front ++ final).toArray := by
  rcases ends with rfl | rfl
  · rw [List.append_nil]
    rfl
  · rw [← List.push_toArray]
    rfl

/-! ### The cut of the standard table -/

theorem Cuts.ofLength {place : Nat} {length : UInt16} {entries : List UInt16}
    {segments : List Segment} (fits : place + length.toNat ≤ 65536)
    (rest : Cuts (place + length.toNat) segments entries) :
    Cuts place (.identity length :: segments) (identityUnits place length.toNat ++ entries) := by
  refine .identity (length_identityUnits _ _) (toNat_identityUnits fits) ?_
  rw [length_identityUnits]
  exact rest

/-- The segments of the standard table cut it up; only the last unit is behind the cut. -/
theorem cuts_upcaseSegments :
    ∃ entries, Cuts 0 upcaseSegments entries ∧ entries.length = 65535 := by
  refine ⟨_, .units ?_ (.ofLength ?_ (.units ?_ (.ofLength ?_ (.units ?_ (.ofLength ?_
    (.units ?_ (.ofLength ?_ (.units ?_ .nothing)))))))), ?length⟩
  case length =>
    simp only [List.length_append, length_identityUnits]
    decide +kernel
  all_goals decide +kernel

/-! ### Reading back -/

/-- The compressed form of a table stands for the table, whatever the way it was cut up. An odd
byte behind it changes nothing. -/
theorem expand_compress {segments : List Segment} {entries final : List UInt16}
    (cuts : Cuts 0 segments entries) (ends : final = [] ∨ final = [stretchMark]) :
    expand (compress segments final) = (entries ++ final).toArray ∧
      ∀ odd : UInt8, expand (compress segments final ++ [odd]) = (entries ++ final).toArray := by
  have expanded {rest : List UInt8} (short : rest.length ≤ 1) :
      expand (compress segments final ++ rest) = (entries ++ final).toArray := by
    rw [expand, compress, unitsOfBytes_unitBytes _ short]
    exact (expandUnits_of_cuts cuts [] final rfl).trans (expandUnits_final ends entries)
  constructor
  · rw [← List.append_nil (compress segments final)]
    exact expanded (Nat.zero_le 1)
  · intro odd
    exact expanded (Nat.le_refl 1)

/-- The standard table has an entry for every unit, the last one for the mark itself. -/
theorem expand_compress_upcaseTable :
    (expand upcaseTable).size = 65536 ∧ (expand upcaseTable)[65535]? = some stretchMark ∧
      expand (upcaseTable ++ [0]) = expand upcaseTable := by
  obtain ⟨entries, cuts, length_eq⟩ := cuts_upcaseSegments
  obtain ⟨expanded, ignored⟩ := expand_compress cuts (.inr rfl)
  have table_eq : expand upcaseTable = (entries ++ [stretchMark]).toArray := expanded
  rw [table_eq]
  refine ⟨?_, ?_, ignored 0⟩
  · rw [List.size_toArray, List.length_append, length_eq]
    rfl
  · rw [List.getElem?_toArray, ← length_eq, List.getElem?_concat_length]

/-- A stretch of no units, a unit, a stretch of two, the last mark, and an odd byte. -/
example : expand [0xFF, 0xFF, 0, 0, 5, 0, 0xFF, 0xFF, 2, 0, 0xFF, 0xFF, 9] =
    #[5, 1, 2, stretchMark] := by
  decide

end CardFormat.ExFat
