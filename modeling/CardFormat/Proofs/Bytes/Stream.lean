/-
This file lays fields one behind the other into a stream of bytes: before each there are
zeros up to its offset. If the fields come in rising order, the stream consists of them,
and of zeros between them, however they were cut into pieces when they were laid.
-/

import CardFormat.Proofs.Bytes.Sector

namespace CardFormat.Stream

open Sector

/-- The stream with one field more. -/
def laid (stream : List UInt8) (field : Field) : List UInt8 :=
  stream ++ List.replicate (field.offset - stream.length) 0 ++ field.bytes

/-- The stream with all the fields. -/
def laidAll (stream : List UInt8) (fields : List Field) : List UInt8 :=
  fields.foldl laid stream

/-- Each field begins behind the one before, and the first no earlier than the position. -/
def Rising : (position : Nat) → List Field → Prop
  | _, [] => True
  | position, field :: rest =>
    position ≤ field.offset ∧ Rising (field.offset + field.bytes.length) rest

/-- Where a stream of rising fields ends. -/
def stop : (position : Nat) → List Field → Nat
  | position, [] => position
  | _, field :: rest => stop (field.offset + field.bytes.length) rest

theorem le_stop {position : Nat} {fields : List Field} (rising : Rising position fields) :
    position ≤ stop position fields := by
  induction fields generalizing position with
  | nil => exact Nat.le_refl _
  | cons field rest inductionHypothesis =>
    obtain ⟨after, others⟩ := rising
    have later := inductionHypothesis others
    rw [stop]
    omega

theorem stop_append_singleton (position : Nat) (fields : List Field) (last : Field) :
    stop position (fields ++ [last]) = last.offset + last.bytes.length := by
  induction fields generalizing position with
  | nil => rfl
  | cons field rest inductionHypothesis => exact inductionHypothesis _

/-- A position can be lowered. -/
theorem rising_of_le {position lower : Nat} {fields : List Field} (le : lower ≤ position)
    (rising : Rising position fields) : Rising lower fields := by
  cases fields with
  | nil => trivial
  | cons field rest => exact ⟨Nat.le_trans le rising.1, rising.2⟩

theorem rising_append_iff {position : Nat} {first second : List Field} :
    Rising position (first ++ second) ↔
      Rising position first ∧ Rising (stop position first) second := by
  induction first generalizing position with
  | nil => exact (and_iff_right trivial).symm
  | cons field rest inductionHypothesis =>
    rw [List.cons_append, Rising, Rising, stop, inductionHypothesis, and_assoc]

/-- Rising fields begin no earlier than the position. -/
theorem le_offset_of_rising {position : Nat} {fields : List Field}
    (rising : Rising position fields) : ∀ field ∈ fields, position ≤ field.offset := by
  induction fields generalizing position with
  | nil =>
    intro field member
    cases member
  | cons head rest inductionHypothesis =>
    obtain ⟨after, others⟩ := rising
    intro field member
    rcases List.mem_cons.1 member with rfl | later
    · exact after
    · have behind := inductionHypothesis others field later
      omega

/-- Rising fields end no later than their stop. -/
theorem stop_le_of_rising {position : Nat} {fields : List Field} (rising : Rising position fields) :
    ∀ field ∈ fields, field.offset + field.bytes.length ≤ stop position fields := by
  induction fields generalizing position with
  | nil =>
    intro field member
    cases member
  | cons head rest inductionHypothesis =>
    obtain ⟨after, others⟩ := rising
    intro field member
    rcases List.mem_cons.1 member with rfl | later
    · exact le_stop others
    · exact inductionHypothesis others field later

theorem length_laid {stream : List UInt8} {field : Field} (after : stream.length ≤ field.offset) :
    (laid stream field).length = field.offset + field.bytes.length := by
  rw [laid, List.length_append, List.length_append, List.length_replicate]
  omega

theorem laidAll_cons (stream : List UInt8) (field : Field) (rest : List Field) :
    laidAll stream (field :: rest) = laidAll (laid stream field) rest := rfl

/-- What was laid first stays at the front. -/
theorem prefix_laidAll (stream : List UInt8) (fields : List Field) :
    stream <+: laidAll stream fields := by
  induction fields generalizing stream with
  | nil => exact List.prefix_refl stream
  | cons field rest inductionHypothesis =>
    refine List.IsPrefix.trans ?_ (inductionHypothesis (laid stream field))
    exact ⟨_, (List.append_assoc _ _ _).symm⟩

theorem length_laidAll {stream : List UInt8} {fields : List Field}
    (rising : Rising stream.length fields) :
    (laidAll stream fields).length = stop stream.length fields := by
  induction fields generalizing stream with
  | nil => rfl
  | cons field rest inductionHypothesis =>
    obtain ⟨after, others⟩ := rising
    rw [← length_laid after] at others
    rw [laidAll_cons, inductionHypothesis others, length_laid after, stop]

/-! ### Fields that are cut -/

/-- Two pieces in a row are one field. -/
theorem laid_append {stream : List UInt8} {offset : Nat} (after : stream.length ≤ offset)
    (first second : List UInt8) :
    laid stream ⟨offset, first ++ second⟩ =
      laid (laid stream ⟨offset, first⟩) ⟨offset + first.length, second⟩ := by
  have whole : offset + first.length - (laid stream ⟨offset, first⟩).length = 0 := by
    rw [length_laid after, Nat.sub_self]
  rw [laid, laid, whole, List.replicate_zero, List.append_nil, laid]
  simp only [List.append_assoc]

/-- The first fields are the second, some of which are joined where they touch. -/
structure Joins (joined fields : List Field) : Prop where
  rising : ∀ position, Rising position fields → Rising position joined
  stop_eq : ∀ position, stop position joined = stop position fields
  laid_eq : ∀ stream, Rising stream.length fields → laidAll stream joined = laidAll stream fields

theorem Joins.refl (fields : List Field) : Joins fields fields where
  rising _ rising := rising
  stop_eq _ := rfl
  laid_eq _ _ := rfl

theorem Joins.cons {joined fields : List Field} (joins : Joins joined fields) (field : Field) :
    Joins (field :: joined) (field :: fields) where
  rising _ rising := ⟨rising.1, joins.rising _ rising.2⟩
  stop_eq _ := joins.stop_eq _
  laid_eq stream rising := by
    have others := rising.2
    rw [← length_laid rising.1] at others
    exact joins.laid_eq (laid stream field) others

/-- A field may be joined from two that touch. -/
theorem Joins.join {joined fields : List Field} {offset middle : Nat} {first second : List UInt8}
    (joins : Joins (⟨offset, first⟩ :: ⟨middle, second⟩ :: joined) fields)
    (touch : middle = offset + first.length) :
    Joins (⟨offset, first ++ second⟩ :: joined) fields := by
  subst touch
  refine ⟨?_, ?_, ?_⟩
  · intro position rising
    obtain ⟨after, -, others⟩ := joins.rising position rising
    refine ⟨after, ?_⟩
    rw [List.length_append, ← Nat.add_assoc]
    exact others
  · intro position
    rw [← joins.stop_eq, stop, stop, stop, List.length_append, Nat.add_assoc]
  · intro stream rising
    rw [← joins.laid_eq stream rising, laidAll_cons,
      laid_append (joins.rising stream.length rising).1]
    rfl

/-! ### What the stream consists of -/

variable {stream : List UInt8} {size : Nat} {fields : List Field}

theorem consistsOf_nil : ConsistsOf [] 0 [] where
  length_eq := rfl
  inside place member := by cases member
  read_field field member := by cases member
  read_rest offset width inside _ := by
    obtain rfl : width = 0 := by omega
    exact read_nothing _ _

/-- Zeros behind the fields. -/
theorem consistsOf_zeros (consists : ConsistsOf stream size fields) (count : Nat) :
    ConsistsOf (stream ++ List.replicate count 0) (size + count) fields := by
  obtain ⟨length_eq, inside, read_field, read_rest⟩ := consists
  refine ⟨?_, ?_, ?_, ?_⟩
  · rw [List.length_append, length_eq, List.length_replicate]
  · intro place member
    exact Nat.le_add_right_of_le (inside place member)
  · intro field member
    have within := inside _ (List.mem_map_of_mem member)
    rw [read_append_left (length_eq.symm ▸ within), read_field field member]
  · intro offset width within apart
    have beyond : width - (size - offset) = 0 ∨
        offset - size + (width - (size - offset)) ≤ count := by omega
    rw [read_append, length_eq]
    have front : Sector.read stream offset (min width (size - offset)) =
        List.replicate (min width (size - offset)) 0 := by
      by_cases empty : min width (size - offset) = 0
      · rw [empty, read_nothing, List.replicate_zero]
      · refine read_rest _ _ (by omega) ?_
        intro place member
        have := apart place member
        unfold Apart at this ⊢
        simp only at this ⊢
        omega
    have back : Sector.read (List.replicate count (0 : UInt8)) (offset - size)
        (width - (size - offset)) = List.replicate (width - (size - offset)) 0 := by
      rcases beyond with zero | inside
      · rw [zero, read_nothing, List.replicate_zero]
      · exact read_replicate inside
    rw [front, back, List.replicate_append_replicate]
    congr 1
    omega

/-- A field right behind the others. -/
theorem consistsOf_field (consists : ConsistsOf stream size fields) (bytes : List UInt8) :
    ConsistsOf (stream ++ bytes) (size + bytes.length) (fields ++ [⟨size, bytes⟩]) := by
  obtain ⟨length_eq, inside, read_field, read_rest⟩ := consists
  refine ⟨?_, ?_, ?_, ?_⟩
  · rw [List.length_append, length_eq]
  · simp only [List.map_append, List.mem_append, List.map_cons, List.map_nil, List.mem_singleton]
    rintro place (member | rfl)
    · exact Nat.le_add_right_of_le (inside place member)
    · exact Nat.le_refl _
  · simp only [List.mem_append, List.mem_singleton]
    rintro field (member | rfl)
    · have within := inside _ (List.mem_map_of_mem member)
      rw [read_append_left (length_eq.symm ▸ within), read_field field member]
    · rw [Sector.read, List.drop_left' length_eq, List.take_length]
  · intro offset width within apart
    simp only [List.map_append, List.mem_append, List.map_cons, List.map_nil,
      List.mem_singleton] at apart
    have other := apart _ (.inr rfl)
    unfold Apart Field.place at other
    simp only at other
    by_cases empty : width = 0
    · rw [empty, read_nothing, List.replicate_zero]
    · have before : offset + width ≤ size := by omega
      rw [read_append_left (length_eq.symm ▸ before)]
      exact read_rest _ _ before fun place member => apart place (.inl member)

theorem consistsOf_laid (consists : ConsistsOf stream size fields) {field : Field}
    (after : size ≤ field.offset) :
    ConsistsOf (laid stream field) (field.offset + field.bytes.length) (fields ++ [field]) := by
  have padded := consistsOf_zeros consists (field.offset - size)
  rw [show size + (field.offset - size) = field.offset by omega] at padded
  rw [laid, consists.length_eq]
  exact consistsOf_field padded field.bytes

/-- A stream of rising fields consists of them. -/
theorem consistsOf_laidAll {later : List Field} (consists : ConsistsOf stream size fields)
    (rising : Rising size later) :
    ConsistsOf (laidAll stream later) (stop size later) (fields ++ later) := by
  induction later generalizing stream size fields with
  | nil =>
    rw [List.append_nil]
    exact consists
  | cons field rest inductionHypothesis =>
    obtain ⟨after, others⟩ := rising
    have next := inductionHypothesis (consistsOf_laid consists after) others
    rw [List.append_assoc] at next
    exact next

/-- A window that begins with a field and is otherwise left alone. -/
theorem read_begun {before after : List Field} {position offset width : Nat} {bytes : List UInt8}
    (consists : ConsistsOf stream size (before ++ ⟨offset, bytes⟩ :: after))
    (rising : Rising position (before ++ ⟨offset, bytes⟩ :: after))
    (behind : Rising (offset + width) after) (room : bytes.length ≤ width)
    (inside : offset + width ≤ size) :
    Sector.read stream offset width = bytes ++ List.replicate (width - bytes.length) 0 := by
  have field : ⟨offset, bytes⟩ ∈ before ++ ⟨offset, bytes⟩ :: after :=
    List.mem_append_right _ List.mem_cons_self
  obtain ⟨earlier, next, -⟩ := rising_append_iff.1 rising
  have empty : Sector.read stream (offset + bytes.length) (width - bytes.length) =
      List.replicate (width - bytes.length) 0 := by
    refine consists.read_rest _ _ (by omega) ?_
    simp only [List.map_append, List.map_cons, List.mem_append, List.mem_cons, List.mem_map]
    rintro place (⟨other, member, rfl⟩ | rfl | ⟨other, member, rfl⟩)
    · have ends := stop_le_of_rising earlier other member
      exact .inr (Nat.le_trans ends (Nat.le_add_right_of_le next))
    · exact .inr (Nat.le_refl _)
    · have begins := le_offset_of_rising behind other member
      refine .inl (Nat.le_trans (Nat.le_of_eq ?_) begins)
      rw [Nat.add_assoc, Nat.add_sub_cancel' room]
  rw [show width = bytes.length + (width - bytes.length) by omega, read_add,
    consists.read_field _ field, Nat.add_sub_cancel_left, empty]

/-- A field without bytes can be left out. -/
theorem consistsOf_of_nil {offset : Nat}
    (consists : ConsistsOf stream size (fields ++ [⟨offset, []⟩])) (beyond : size ≤ offset) :
    ConsistsOf stream size fields := by
  obtain ⟨length_eq, inside, read_field, read_rest⟩ := consists
  refine ⟨length_eq, ?_, ?_, ?_⟩
  · intro place member
    rw [List.map_append] at inside
    exact inside place (List.mem_append_left _ member)
  · intro field member
    exact read_field field (List.mem_append_left _ member)
  · intro place width within apart
    refine read_rest place width within ?_
    simp only [List.map_append, List.mem_append, List.map_cons, List.map_nil, List.mem_singleton]
    rintro other (member | rfl)
    · exact apart other member
    · exact .inl (Nat.le_trans within beyond)

end CardFormat.Stream
