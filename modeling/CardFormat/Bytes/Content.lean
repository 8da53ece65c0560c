/-
This file holds the bytes of a disk or an image. A card is mostly runs of one
byte, so the bytes are kept as a list of spans: a fill of one value, or bytes in
full. What the spans stand for is the plain list of bytes `toList`; each operation
is described by what it does to that list, and nothing else about the spans is
ever needed.
-/

import CardFormat.Numbers

namespace CardFormat

/-- A stretch of consecutive bytes. -/
inductive Span where
  | fill (value : UInt8) (count : Nat)
  | packed (bytes : ByteArray)

namespace Span

/-- The bytes of the stretch. -/
def toList : Span → List UInt8
  | .fill value count => List.replicate count value
  | .packed bytes => bytes.data.toList

/-- How many bytes the stretch has. -/
def size : Span → Nat
  | .fill _ count => count
  | .packed bytes => bytes.size

/-- The first bytes of the stretch. -/
def take (span : Span) (count : Nat) : Span :=
  match span with
  | .fill value length => .fill value (min count length)
  | .packed bytes => .packed (bytes.extract 0 count)

/-- The stretch without its first bytes. -/
def drop (span : Span) (count : Nat) : Span :=
  match span with
  | .fill value length => .fill value (length - count)
  | .packed bytes => .packed (bytes.extract count bytes.size)

@[simp] theorem length_toList (span : Span) : span.toList.length = span.size := by
  cases span with
  | fill value count => simp [toList, size]
  | packed bytes => simp [toList, size]

@[simp] theorem toList_take (span : Span) (count : Nat) :
    (span.take count).toList = span.toList.take count := by
  cases span with
  | fill value length => simp [toList, take]
  | packed bytes => simp [toList, take, Array.toList_extract, List.extract]

@[simp] theorem toList_drop (span : Span) (count : Nat) :
    (span.drop count).toList = span.toList.drop count := by
  cases span with
  | fill value length => simp [toList, drop]
  | packed bytes =>
    have whole : bytes.size - count = (bytes.data.toList.drop count).length := by simp
    simp only [toList, drop, ByteArray.data_extract, Array.toList_extract, List.extract, whole,
      List.take_length]

end Span

/-- The bytes of a disk, an image or a part of one. -/
structure Content where
  spans : List Span

namespace Content

/-- The bytes in order. -/
def toList (content : Content) : List UInt8 :=
  content.spans.flatMap Span.toList

/-- How many bytes there are. -/
def size (content : Content) : Nat :=
  (content.spans.map Span.size).sum

/-- No bytes. -/
def empty : Content := ⟨[]⟩

/-- One value, repeated. -/
def fill (value : UInt8) (count : Nat) : Content :=
  if count = 0 then empty else ⟨[.fill value count]⟩

/-- Zero bytes. -/
def zeros (count : Nat) : Content := fill 0 count

/-- The given bytes. -/
def ofBytes (bytes : ByteArray) : Content := ⟨[.packed bytes]⟩

/-- The given bytes. -/
def ofList (bytes : List UInt8) : Content := ofBytes bytes.toByteArray

/-- One content after another. -/
def append (first second : Content) : Content := ⟨first.spans ++ second.spans⟩

instance : Append Content := ⟨append⟩

/-- The first bytes of a list of spans. -/
def takeSpans : List Span → Nat → List Span
  | [], _ => []
  | span :: rest, count =>
    if count = 0 then []
    else if count < span.size then [span.take count]
    else span :: takeSpans rest (count - span.size)

/-- A list of spans without its first bytes. -/
def dropSpans : List Span → Nat → List Span
  | [], _ => []
  | span :: rest, count =>
    if count = 0 then span :: rest
    else if count < span.size then span.drop count :: rest
    else dropSpans rest (count - span.size)

/-- The first bytes. -/
def take (content : Content) (count : Nat) : Content := ⟨takeSpans content.spans count⟩

/-- Without the first bytes. -/
def drop (content : Content) (count : Nat) : Content := ⟨dropSpans content.spans count⟩

/-- The bytes of a window; what lies beyond the end is left out. -/
def slice (content : Content) (offset count : Nat) : Content :=
  (content.drop offset).take count

/-- The content cut or extended with zeros to the given size. -/
def resize (content : Content) (size : Nat) : Content :=
  content.take size ++ zeros (size - content.size)

/-- The window of the given size; what lies beyond the end reads as zero. -/
def window (content : Content) (offset count : Nat) : Content :=
  (content.slice offset count).resize count

/-- Lays a patch over the content. A gap before the patch reads as zero. -/
def overwrite (content : Content) (offset : Nat) (patch : Content) : Content :=
  content.resize offset ++ patch ++ content.drop (offset + patch.size)

/-- The byte at an offset; beyond the end it is zero. -/
def byteAt (content : Content) (offset : Nat) : UInt8 :=
  content.toList.getD offset 0

/-! ### The operations on the list of bytes -/

@[simp] theorem length_toList (content : Content) : content.toList.length = content.size := by
  obtain ⟨spans⟩ := content
  simp only [toList, size]
  induction spans with
  | nil => rfl
  | cons span rest inductionHypothesis => simp [inductionHypothesis]

@[simp] theorem toList_empty : empty.toList = [] := rfl

@[simp] theorem toList_fill (value : UInt8) (count : Nat) :
    (fill value count).toList = List.replicate count value := by
  unfold fill
  split
  · simp_all
  · simp [toList, Span.toList]

@[simp] theorem toList_zeros (count : Nat) : (zeros count).toList = List.replicate count 0 :=
  toList_fill 0 count

@[simp] theorem toList_ofBytes (bytes : ByteArray) :
    (ofBytes bytes).toList = bytes.data.toList := by
  simp [ofBytes, toList, Span.toList]

@[simp] theorem toList_ofList (bytes : List UInt8) : (ofList bytes).toList = bytes := by
  simp [ofList, List.data_toByteArray]

@[simp] theorem toList_append (first second : Content) :
    (first ++ second).toList = first.toList ++ second.toList := by
  change (append first second).toList = _
  simp [append, toList]

theorem flatMap_takeSpans (spans : List Span) (count : Nat) :
    (takeSpans spans count).flatMap Span.toList = (spans.flatMap Span.toList).take count := by
  induction spans generalizing count with
  | nil => simp [takeSpans]
  | cons span rest inductionHypothesis =>
    simp only [takeSpans, List.flatMap_cons, List.take_append, Span.length_toList]
    split
    · simp_all
    · split
      · rename_i inside
        simp [Nat.sub_eq_zero_of_le (Nat.le_of_lt inside)]
      · rename_i beyond
        have whole : span.toList.take count = span.toList :=
          List.take_of_length_le (by rw [Span.length_toList]; omega)
        rw [List.flatMap_cons, inductionHypothesis, whole]

theorem flatMap_dropSpans (spans : List Span) (count : Nat) :
    (dropSpans spans count).flatMap Span.toList = (spans.flatMap Span.toList).drop count := by
  induction spans generalizing count with
  | nil => simp [dropSpans]
  | cons span rest inductionHypothesis =>
    simp only [dropSpans, List.flatMap_cons, List.drop_append, Span.length_toList]
    split
    · simp_all
    · split
      · rename_i inside
        simp [Nat.sub_eq_zero_of_le (Nat.le_of_lt inside)]
      · rename_i beyond
        have nothing : span.toList.drop count = [] :=
          List.drop_eq_nil_of_le (by rw [Span.length_toList]; omega)
        rw [inductionHypothesis, nothing, List.nil_append]

@[simp] theorem toList_take (content : Content) (count : Nat) :
    (content.take count).toList = content.toList.take count :=
  flatMap_takeSpans content.spans count

@[simp] theorem toList_drop (content : Content) (count : Nat) :
    (content.drop count).toList = content.toList.drop count :=
  flatMap_dropSpans content.spans count

@[simp] theorem toList_slice (content : Content) (offset count : Nat) :
    (content.slice offset count).toList = (content.toList.drop offset).take count := by
  simp [slice]

@[simp] theorem toList_resize (content : Content) (size : Nat) :
    (content.resize size).toList =
      content.toList.take size ++ List.replicate (size - content.size) 0 := by
  simp [resize]

@[simp] theorem toList_overwrite (content : Content) (offset : Nat) (patch : Content) :
    (content.overwrite offset patch).toList =
      content.toList.take offset ++ List.replicate (offset - content.size) 0 ++ patch.toList ++
        content.toList.drop (offset + patch.size) := by
  simp [overwrite]

/-! ### Sizes -/

@[simp] theorem size_empty : empty.size = 0 := rfl

@[simp] theorem size_fill (value : UInt8) (count : Nat) : (fill value count).size = count := by
  rw [← length_toList]; simp

@[simp] theorem size_zeros (count : Nat) : (zeros count).size = count := size_fill 0 count

@[simp] theorem size_ofList (bytes : List UInt8) : (ofList bytes).size = bytes.length := by
  rw [← length_toList]; simp

@[simp] theorem size_append (first second : Content) :
    (first ++ second).size = first.size + second.size := by
  simp only [← length_toList, toList_append, List.length_append]

@[simp] theorem size_take (content : Content) (count : Nat) :
    (content.take count).size = min count content.size := by
  simp only [← length_toList, toList_take, List.length_take]

@[simp] theorem size_drop (content : Content) (count : Nat) :
    (content.drop count).size = content.size - count := by
  simp only [← length_toList, toList_drop, List.length_drop]

@[simp] theorem size_resize (content : Content) (size : Nat) :
    (content.resize size).size = size := by
  simp only [resize, size_append, size_take, size_zeros]
  omega

@[simp] theorem size_window (content : Content) (offset count : Nat) :
    (content.window offset count).size = count := by
  simp [window]

@[simp] theorem size_overwrite (content : Content) (offset : Nat) (patch : Content) :
    (content.overwrite offset patch).size = max content.size (offset + patch.size) := by
  simp only [overwrite, size_append, size_resize, size_drop]
  omega

end Content

end CardFormat
