/-
This file says what a sector composed of fields holds. If all fields lie inside the sector
and no two of them overlap, composing succeeds, every field is read back, and whatever no
field touches is zero. Both conditions are about the places of the fields only, so for a
given sector they are decided once, whatever the values are.
-/

import CardFormat.Bytes.Sector
import CardFormat.Proofs.Attempt

namespace CardFormat

/-- Where a field lies: its offset and its length. -/
def Field.place (field : Field) : Nat × Nat := (field.offset, field.bytes.length)

namespace Sector

/-- Two places do not overlap. -/
def Apart (first second : Nat × Nat) : Prop :=
  first.1 + first.2 ≤ second.1 ∨ second.1 + second.2 ≤ first.1

instance (first second : Nat × Nat) : Decidable (Apart first second) := by
  unfold Apart
  infer_instance

/-! ### Windows -/

/-- A window that ends inside the first part does not see the second. -/
theorem read_append_left {first second : List UInt8} {offset width : Nat}
    (inside : offset + width ≤ first.length) :
    read (first ++ second) offset width = read first offset width := by
  rw [read, read, List.drop_append_of_le_length (by omega),
    List.take_append_of_le_length (by rw [List.length_drop]; omega)]

/-- A window over both parts is made of a window of each. -/
theorem read_append (first second : List UInt8) (offset width : Nat) :
    read (first ++ second) offset width =
      read first offset (min width (first.length - offset)) ++
        read second (offset - first.length) (width - (first.length - offset)) := by
  rw [read, read, read, List.drop_append, List.take_append, List.length_drop]
  congr 1
  by_cases short : width ≤ first.length - offset
  · rw [Nat.min_eq_left short]
  · rw [Nat.min_eq_right (by omega), List.take_of_length_le (by rw [List.length_drop]; omega),
      List.take_of_length_le (Nat.le_of_eq List.length_drop)]

/-- A window is made of the windows on both sides of a cut. -/
theorem read_add (bytes : List UInt8) (offset first second : Nat) :
    read bytes offset (first + second) =
      read bytes offset first ++ read bytes (offset + first) second := by
  rw [read, read, read, List.take_add, List.drop_drop]

/-- A window of a window is a window. -/
theorem read_read {bytes : List UInt8} {offset width inner count : Nat}
    (inside : inner + count ≤ width) :
    read (read bytes offset width) inner count = read bytes (offset + inner) count := by
  rw [read, read, read, List.drop_take, List.take_take, Nat.min_eq_left (by omega), List.drop_drop]

/-- Where bytes are found, each beginning of them is found. -/
theorem read_begin {whole bytes : List UInt8} {offset width : Nat}
    (found : read whole offset bytes.length = bytes) (inside : width ≤ bytes.length) :
    read whole offset width = bytes.take width := by
  rw [← Nat.add_zero offset, ← read_read (show 0 + width ≤ bytes.length by omega), found]
  rfl

/-- A number in bytes that are found somewhere is found behind where they begin. -/
theorem readNumber_of_read {whole bytes : List UInt8} {offset inner width : Nat}
    (found : read whole offset bytes.length = bytes) (inside : inner + width ≤ bytes.length) :
    readNumber whole (offset + inner) width = readNumber bytes inner width := by
  rw [readNumber, readNumber, ← read_read inside, found]

/-- Bytes between others are found where the others end. -/
theorem read_middle {front bytes back : List UInt8} {offset : Nat} (place : front.length = offset) :
    read (front ++ (bytes ++ back)) offset bytes.length = bytes := by
  rw [read, List.drop_left' place, List.take_left]

/-- A word between other bytes is read back. -/
theorem readNumber_word32 {front back : List UInt8} {value : UInt32} {offset : Nat}
    (place : front.length = offset) :
    readNumber (front ++ (LittleEndian.word32 value ++ back)) offset 4 = value.toNat := by
  rw [readNumber, ← LittleEndian.length_word32 value, read_middle place,
    LittleEndian.decode_word32]

theorem length_row (numbers : List Nat) (width : Nat) :
    (numbers.flatMap (LittleEndian.encode width)).length = numbers.length * width := by
  simp only [List.length_flatMap, LittleEndian.length_encode, List.map_const',
    List.sum_replicate_nat]

/-- Of numbers in a row, all of one width, each is read back that fits. -/
theorem readNumber_row {numbers : List Nat} {width index number : Nat}
    (found : numbers[index]? = some number) (fits : number < 256 ^ width) :
    readNumber (numbers.flatMap (LittleEndian.encode width)) (index * width) width = number := by
  induction numbers generalizing index with
  | nil => cases found
  | cons head rest inductionHypothesis =>
    have length_eq : (LittleEndian.encode width head).length = width :=
      LittleEndian.length_encode width head
    rw [readNumber, List.flatMap_cons]
    cases index with
    | zero =>
      cases found
      rw [read_append_left (by omega), read, Nat.zero_mul, List.drop_zero,
        List.take_of_length_le (Nat.le_of_eq length_eq)]
      exact LittleEndian.decode_encode_of_lt fits
    | succ index =>
      rw [← inductionHypothesis found, readNumber]
      congr 1
      rw [read, read, Nat.succ_mul, Nat.add_comm, ← List.drop_drop, List.drop_left' length_eq]

theorem read_nothing (bytes : List UInt8) (offset : Nat) : read bytes offset 0 = [] := by
  rw [read, List.take_zero]

theorem read_replicate {size offset width : Nat} (inside : offset + width ≤ size) :
    read (List.replicate size 0) offset width = List.replicate width 0 := by
  rw [read, List.drop_replicate, List.take_replicate, Nat.min_eq_left (by omega)]

/-- The mark is there if its two bytes are. -/
theorem marked_iff {sector : List UInt8} (long : 512 ≤ sector.length) :
    read sector signatureOffset 2 = signature ↔
      sector[510]? = some 0x55 ∧ sector[511]? = some 0xAA := by
  have first : 510 < sector.length := Nat.lt_of_lt_of_le (by decide) long
  have second : 511 < sector.length := Nat.lt_of_lt_of_le (by decide) long
  rw [read, signatureOffset, signature, List.drop_eq_getElem_cons first,
    List.drop_eq_getElem_cons second, List.take_succ_cons, List.take_succ_cons, List.take_zero,
    List.getElem?_eq_getElem first, List.getElem?_eq_getElem second]
  simp only [List.cons.injEq, and_true, Option.some.injEq]

/-! ### Laying all fields -/

theorem lay_eq_ok {sector : List UInt8} {field : Field}
    (inside : field.place.1 + field.place.2 ≤ sector.length) :
    ∃ result, lay sector field = .ok result :=
  ⟨_, lay_eq_ok_iff.2 ⟨inside, rfl⟩⟩

theorem layAll_cons_eq_ok_iff {sector result : List UInt8} {field : Field} {rest : List Field} :
    layAll sector (field :: rest) = .ok result ↔
      ∃ middle, lay sector field = .ok middle ∧ layAll middle rest = .ok result := by
  rw [layAll, Checked.bind_eq_ok_iff]

theorem length_layAll {sector result : List UInt8} {fields : List Field}
    (laid : layAll sector fields = .ok result) : result.length = sector.length := by
  induction fields generalizing sector with
  | nil =>
    cases laid
    rfl
  | cons field rest inductionHypothesis =>
    obtain ⟨middle, first, others⟩ := layAll_cons_eq_ok_iff.1 laid
    rw [inductionHypothesis others, length_lay first]

theorem layAll_eq_ok {sector : List UInt8} {fields : List Field}
    (inside : ∀ place ∈ fields.map Field.place, place.1 + place.2 ≤ sector.length) :
    ∃ result, layAll sector fields = .ok result := by
  induction fields generalizing sector with
  | nil => exact ⟨sector, rfl⟩
  | cons field rest inductionHypothesis =>
    rw [List.map_cons, List.forall_mem_cons] at inside
    obtain ⟨middle, first⟩ := lay_eq_ok inside.1
    rw [← length_lay first] at inside
    obtain ⟨result, others⟩ := inductionHypothesis inside.2
    exact ⟨result, layAll_cons_eq_ok_iff.2 ⟨middle, first, others⟩⟩

/-- What is apart from all fields keeps its value. -/
theorem read_layAll_other {sector result : List UInt8} {fields : List Field} {offset width : Nat}
    (laid : layAll sector fields = .ok result)
    (apart : ∀ place ∈ fields.map Field.place, Apart (offset, width) place) :
    read result offset width = read sector offset width := by
  induction fields generalizing sector with
  | nil =>
    cases laid
    rfl
  | cons field rest inductionHypothesis =>
    obtain ⟨middle, first, others⟩ := layAll_cons_eq_ok_iff.1 laid
    rw [List.map_cons, List.forall_mem_cons] at apart
    rw [inductionHypothesis others apart.2]
    exact read_lay_other first apart.1

/-- A field that no other overlaps is read back. -/
theorem read_layAll_self {sector result : List UInt8} {fields : List Field} {field : Field}
    (laid : layAll sector fields = .ok result) (apart : (fields.map Field.place).Pairwise Apart)
    (member : field ∈ fields) : read result field.offset field.bytes.length = field.bytes := by
  induction fields generalizing sector with
  | nil => cases member
  | cons head rest inductionHypothesis =>
    obtain ⟨middle, first, others⟩ := layAll_cons_eq_ok_iff.1 laid
    rw [List.map_cons, List.pairwise_cons] at apart
    rcases List.mem_cons.1 member with rfl | later
    · rw [read_layAll_other others apart.1, read_lay_self first]
    · exact inductionHypothesis others apart.2 later

/-! ### A composed sector -/

/-- So many bytes consist of the fields, and of zeros where no field is. -/
structure ConsistsOf (bytes : List UInt8) (size : Nat) (fields : List Field) : Prop where
  length_eq : bytes.length = size
  inside : ∀ place ∈ fields.map Field.place, place.1 + place.2 ≤ size
  read_field : ∀ field ∈ fields, read bytes field.offset field.bytes.length = field.bytes
  read_rest : ∀ offset width, offset + width ≤ size →
    (∀ place ∈ fields.map Field.place, Apart (offset, width) place) →
    read bytes offset width = List.replicate width 0

/-- Whether a sector can be composed depends on the places of its fields alone. -/
theorem compose_eq_ok {size : Nat} {fields : List Field} (places : List (Nat × Nat))
    (placed : fields.map Field.place = places)
    (inside : ∀ place ∈ places, place.1 + place.2 ≤ size) (apart : places.Pairwise Apart) :
    ∃ sector, compose size fields = .ok sector ∧ ConsistsOf sector size fields := by
  subst placed
  have blank : (List.replicate size (0 : UInt8)).length = size := List.length_replicate
  obtain ⟨sector, laid⟩ := layAll_eq_ok (blank.symm ▸ inside)
  refine ⟨sector, laid, ?_, inside, ?_, ?_⟩
  · rw [length_layAll laid, blank]
  · intro field member
    exact read_layAll_self laid apart member
  · intro offset width within others
    rw [read_layAll_other laid others, read_replicate within]

/-- Places inside 512 bytes are inside every sector. -/
theorem inside_sector {places : List (Nat × Nat)} {size : Nat} (sector : 512 ≤ size)
    (inside : ∀ place ∈ places, place.1 + place.2 ≤ 512) :
    ∀ place ∈ places, place.1 + place.2 ≤ size := by
  intro place member
  exact Nat.le_trans (inside place member) sector

namespace ConsistsOf

variable {size : Nat} {fields : List Field} {sector : List UInt8}

/-- The number in a field is read back. -/
theorem readNumber_eq (composed : ConsistsOf sector size fields) {offset width : Nat}
    {bytes : List UInt8} (member : ⟨offset, bytes⟩ ∈ fields) (length_eq : bytes.length = width) :
    readNumber sector offset width = LittleEndian.decode bytes := by
  rw [readNumber, ← length_eq, composed.read_field _ member]

theorem readNumber_word16 (composed : ConsistsOf sector size fields) {offset : Nat}
    {value : UInt16} (member : ⟨offset, LittleEndian.word16 value⟩ ∈ fields) :
    readNumber sector offset 2 = value.toNat := by
  rw [composed.readNumber_eq member (LittleEndian.length_word16 _), LittleEndian.decode_word16]

theorem readNumber_word32 (composed : ConsistsOf sector size fields) {offset : Nat}
    {value : UInt32} (member : ⟨offset, LittleEndian.word32 value⟩ ∈ fields) :
    readNumber sector offset 4 = value.toNat := by
  rw [composed.readNumber_eq member (LittleEndian.length_word32 _), LittleEndian.decode_word32]

/-- Where no field is, the number is zero. -/
theorem readNumber_rest (composed : ConsistsOf sector size fields) {offset width : Nat}
    (inside : offset + width ≤ size)
    (apart : ∀ place ∈ fields.map Field.place, Apart (offset, width) place) :
    readNumber sector offset width = 0 := by
  rw [readNumber, composed.read_rest offset width inside apart, LittleEndian.decode_replicate_zero]

/-- Behind all fields everything is zero. -/
theorem drop_eq (composed : ConsistsOf sector size fields) {limit : Nat} (inside : limit ≤ size)
    (before : ∀ place ∈ fields.map Field.place, place.1 + place.2 ≤ limit) :
    sector.drop limit = List.replicate (size - limit) 0 := by
  have rest := composed.read_rest limit (size - limit) (by omega)
    fun place member => .inr (before place member)
  have length_eq : (sector.drop limit).length = size - limit := by
    rw [List.length_drop, composed.length_eq]
  rwa [read, List.take_of_length_le (Nat.le_of_eq length_eq)] at rest

end ConsistsOf

end Sector

end CardFormat
