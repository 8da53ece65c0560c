/-
This file says what bytes hold after a part of them was overwritten: what lies before stays,
and the patch is in its place; and so for each byte alone. It also says when bytes are the same
to everybody who reads zeros behind their end.
-/

import CardFormat.Bytes.Content

namespace CardFormat.Content

/-! ### Overwriting -/

/-- The content has the bytes of the stream between two offsets. -/
def Has (content : Content) (stream : List UInt8) (first stop : Nat) : Prop :=
  ∀ offset, first ≤ offset → offset < stop → content.toList[offset]? = stream[offset]?

variable {content other patch : Content} {stream : List UInt8} {first stop offset : Nat}

theorem Has.of_toList_eq (has : content.Has stream first stop)
    (same : other.toList = content.toList) : other.Has stream first stop := by
  unfold Has
  rw [same]
  exact has

/-- What is there stays there when the stream gets longer. -/
theorem Has.append (has : content.Has stream first stop) (inside : stop ≤ stream.length)
    (more : List UInt8) : content.Has (stream ++ more) first stop := by
  intro index after before
  rw [has index after before, List.getElem?_append_left (Nat.lt_of_lt_of_le before inside)]

/-- What is there stays there when bytes behind it are overwritten. -/
theorem Has.overwrite (has : content.Has stream first stop) (inside : stop ≤ stream.length)
    (behind : stop ≤ offset) : (content.overwrite offset patch).Has stream first stop := by
  intro index after before
  have same := has index after before
  rw [← same, toList_overwrite, List.append_assoc, List.append_assoc, List.getElem?_append_left,
    List.getElem?_take_of_lt (Nat.lt_of_lt_of_le before behind)]
  rw [List.getElem?_eq_getElem (Nat.lt_of_lt_of_le before inside)] at same
  rw [List.length_take]
  exact Nat.lt_min.2 ⟨Nat.lt_of_lt_of_le before behind, (List.getElem?_eq_some_iff.1 same).1⟩

/-- Bytes that begin with the rest of the stream put it in its place. -/
theorem has_overwrite (begins : stream.drop offset <+: patch.toList) :
    (content.overwrite offset patch).Has stream offset stream.length := by
  intro index after before
  obtain ⟨inner, rfl⟩ := Nat.exists_eq_add_of_le after
  obtain ⟨rest, patch_eq⟩ := begins
  have length_eq : (content.toList.take offset ++
      List.replicate (offset - content.size) 0).length = offset := by
    rw [List.length_append, List.length_take, length_toList, List.length_replicate]
    omega
  have short : inner < (stream.drop offset).length := by
    rw [List.length_drop]
    omega
  rw [toList_overwrite, List.append_assoc, ← patch_eq, List.getElem?_append_right (by omega),
    length_eq, Nat.add_sub_cancel_left, List.append_assoc, List.getElem?_append_left short,
    List.getElem?_drop]

/-- A patch right behind the front makes the front longer. -/
theorem toList_overwrite_behind {front rest : List UInt8}
    (content_eq : content.toList = front ++ rest.drop front.length) :
    (content.overwrite front.length patch).toList =
      front ++ patch.toList ++ rest.drop (front ++ patch.toList).length := by
  have size : front.length ≤ content.size := by
    rw [← length_toList, content_eq, List.length_append]
    exact Nat.le_add_right _ _
  rw [toList_overwrite, Nat.sub_eq_zero_of_le size, List.replicate_zero, List.append_nil,
    content_eq, List.take_left, List.length_append, length_toList, List.drop_append,
    List.drop_eq_nil_of_le (Nat.le_add_right _ _), List.nil_append, Nat.add_sub_cancel_left,
    List.drop_drop]

/-! ### Single bytes -/

theorem byteAt_eq (content : Content) (offset : Nat) :
    content.byteAt offset = (content.toList[offset]?).getD 0 := by
  rw [byteAt, List.getD_eq_getElem?_getD]

theorem byteAt_take (content : Content) (count offset : Nat) :
    (content.take count).byteAt offset = if offset < count then content.byteAt offset else 0 := by
  rw [byteAt_eq, byteAt_eq, toList_take, List.getElem?_take]
  split
  · rfl
  · rfl

/-- Where the patch has a byte it is that one, and else the byte that was there. -/
theorem byteAt_overwrite (content patch : Content) (start offset : Nat) :
    (content.overwrite start patch).byteAt offset =
      (if start ≤ offset then patch.toList[offset - start]? else none).getD
        (content.byteAt offset) := by
  have front : (content.toList.take start ++
      List.replicate (start - content.size) 0).length = start := by
    rw [List.length_append, List.length_take, length_toList, List.length_replicate]
    omega
  rw [byteAt_eq, byteAt_eq, toList_overwrite, List.append_assoc]
  rcases Nat.lt_or_ge offset start with before | behind
  · rw [if_neg (Nat.not_le_of_lt before), Option.getD_none,
      List.getElem?_append_left (Nat.lt_of_lt_of_eq before front.symm), List.getElem?_append,
      List.getElem?_take_of_lt before, List.length_take, length_toList, List.getElem?_replicate]
    split
    · rfl
    · rw [if_pos (by omega), List.getElem?_eq_none (by rw [length_toList]; omega)]
      rfl
  · obtain ⟨inner, rfl⟩ := Nat.exists_eq_add_of_le behind
    rw [if_pos behind, List.getElem?_append_right (by rw [front]; exact behind), front,
      Nat.add_sub_cancel_left, List.getElem?_append, length_toList, List.getElem?_drop]
    split
    · rw [List.getElem?_eq_getElem (by rw [length_toList]; assumption), Option.getD_some,
        Option.getD_some]
    · rw [List.getElem?_eq_none (l := patch.toList) (by rw [length_toList]; omega),
        Option.getD_none, show start + patch.size + (inner - patch.size) = start + inner by omega]

/-! ### Reading -/

/-- All windows of the two contents are the same. -/
def ReadsAs (first second : Content) : Prop :=
  ∀ offset count, (first.window offset count).toList = (second.window offset count).toList

theorem toList_window (content : Content) (offset count : Nat) :
    (content.window offset count).toList = (content.toList.drop offset).take count ++
      List.replicate (count - (content.size - offset)) 0 := by
  have size : (content.slice offset count).size = min count (content.size - offset) := by
    rw [← length_toList, toList_slice, List.length_take, List.length_drop, length_toList]
  rw [window, toList_resize, toList_slice, List.take_take, Nat.min_self, size]
  refine congrArg (_ ++ List.replicate · 0) ?_
  omega

/-- A window shows the bytes at its offsets. -/
theorem toList_window_eq_map (content : Content) (offset count : Nat) :
    (content.window offset count).toList = (List.range' offset count).map content.byteAt := by
  apply List.ext_getElem?
  intro index
  rw [List.getElem?_map]
  rcases Nat.lt_or_ge index count with inside | beyond
  · rw [List.getElem?_range' inside, Option.map_some, Nat.one_mul, byteAt_eq, toList_window,
      List.getElem?_append, List.getElem?_take_of_lt inside, List.getElem?_drop, List.length_take,
      List.length_drop, length_toList, List.getElem?_replicate]
    split
    · rw [List.getElem?_eq_getElem (by rw [length_toList]; omega), Option.getD_some]
    · rw [if_pos (by omega), List.getElem?_eq_none (by rw [length_toList]; omega), Option.getD_none]
  · rw [List.getElem?_eq_none (by rw [length_toList, size_window]; exact beyond),
      List.getElem?_eq_none (by rw [List.length_range']; exact beyond), Option.map_none]

/-- Zeros at the end make no difference. -/
theorem readsAs_of_zeros {first second : Content} {zeros : Nat}
    (longer : first.toList = second.toList ++ List.replicate zeros 0) : first.ReadsAs second := by
  intro offset count
  have size : first.size = second.size + zeros := by
    rw [← length_toList, longer, List.length_append, length_toList, List.length_replicate]
  rw [toList_window, toList_window, longer, List.drop_append, List.take_append,
    List.drop_replicate, List.take_replicate, List.append_assoc, List.replicate_append_replicate,
    size, List.length_drop, length_toList]
  refine congrArg (_ ++ List.replicate · 0) ?_
  omega

end CardFormat.Content
