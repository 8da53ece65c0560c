/-
This file holds the allocation bitmap of exFAT: a set of clusters of a heap. On
disk every cluster has one bit, the first cluster the lowest bit of the first byte,
and the bits behind the last cluster are zero. A heap can have four thousand million
clusters, of which few stretches are allocated, so the set is kept as ascending runs
that neither overlap nor touch. The places of clusters are counted from the start of
the heap.
-/

import CardFormat.Bytes.Content

namespace CardFormat.ExFat

/-- The number of the first cluster of the heap. -/
def firstCluster : Nat := 2

/-! ### Runs of places -/

/-- The places from one up to another, which is left out. -/
structure Run where
  first : Nat
  stop : Nat
  deriving Repr, DecidableEq

namespace Run

/-- The place is in the run. -/
def holds (run : Run) (place : Nat) : Bool := run.first ≤ place && place < run.stop

/-- How many places the run has. -/
def length (run : Run) : Nat := run.stop - run.first

/-- The runs ascend from one place up to another, are not empty, and do not touch. -/
def Ascending (least limit : Nat) : List Run → Prop
  | [] => True
  | run :: rest =>
    least ≤ run.first ∧ run.first < run.stop ∧ run.stop ≤ limit ∧
      Ascending (run.stop + 1) limit rest

/-- Adds a run; it swallows those that it overlaps or touches. -/
def insert (run : Run) : List Run → List Run
  | [] => [run]
  | head :: rest =>
    if run.stop < head.first then run :: head :: rest
    else if head.stop < run.first then head :: insert run rest
    else insert ⟨min head.first run.first, max head.stop run.stop⟩ rest

theorem Ascending.weaken {least less limit : Nat} {runs : List Run}
    (ascending : Ascending least limit runs) (le : less ≤ least) : Ascending less limit runs := by
  cases runs with
  | nil => trivial
  | cons head rest => exact ⟨Nat.le_trans le ascending.1, ascending.2⟩

/-- Adding a run keeps the order. -/
theorem Ascending.insert {least limit : Nat} {run : Run} {runs : List Run}
    (ascending : Ascending least limit runs) (above : least ≤ run.first)
    (filled : run.first < run.stop) (below : run.stop ≤ limit) :
    Ascending least limit (run.insert runs) := by
  induction runs generalizing least run with
  | nil => exact ⟨above, filled, below, trivial⟩
  | cons head rest inductionHypothesis =>
    obtain ⟨headAbove, headFilled, headBelow, others⟩ := ascending
    unfold Run.insert
    split
    · exact ⟨above, filled, below, by omega, headFilled, headBelow, others⟩
    · split
      · exact ⟨headAbove, headFilled, headBelow, inductionHypothesis others (by omega) filled below⟩
      · exact inductionHypothesis (others.weaken (by omega)) (by simp only; omega)
          (by simp only; omega) (by simp only; omega)

/-- A place is in one of the runs after adding one if it was before or is in the new one. -/
theorem any_holds_insert (run : Run) (runs : List Run) (place : Nat)
    (filled : run.first < run.stop) {least limit : Nat} (ascending : Ascending least limit runs) :
    (run.insert runs).any (·.holds place) = (run.holds place || runs.any (·.holds place)) := by
  induction runs generalizing run least with
  | nil => simp [Run.insert]
  | cons head rest inductionHypothesis =>
    obtain ⟨headAbove, headFilled, headBelow, others⟩ := ascending
    unfold Run.insert
    split
    · simp
    · split
      · rw [List.any_cons, inductionHypothesis run filled others, List.any_cons]
        exact Bool.or_left_comm _ _ _
      · rw [inductionHypothesis _ (by simp only; omega) others, List.any_cons, ← Bool.or_assoc]
        congr 1
        rw [Bool.eq_iff_iff]
        simp only [holds, Bool.or_eq_true, Bool.and_eq_true, decide_eq_true_eq]
        omega

end Run

/-! ### The bitmap -/

/-- A set of clusters of a heap with the given number of clusters. -/
structure Bitmap where
  clusterCount : Nat
  runs : List Run
  ascending : Run.Ascending 0 clusterCount runs

namespace Bitmap

/-- No cluster is allocated. -/
def empty (clusterCount : Nat) : Bitmap := ⟨clusterCount, [], trivial⟩

/-- The cluster at a place is allocated. -/
def bit (bitmap : Bitmap) (place : Nat) : Bool := bitmap.runs.any (·.holds place)

/-- The cluster is allocated. -/
def isAllocated (bitmap : Bitmap) (cluster : Nat) : Bool :=
  firstCluster ≤ cluster && bitmap.bit (cluster - firstCluster)

/-- Allocates the clusters at the places from one up to another, as far as the heap has
them. -/
def allocatePlaces (bitmap : Bitmap) (first stop : Nat) : Bitmap :=
  if filled : first < min stop bitmap.clusterCount then
    ⟨bitmap.clusterCount, Run.insert ⟨first, min stop bitmap.clusterCount⟩ bitmap.runs,
      bitmap.ascending.insert (Nat.zero_le _) filled (Nat.min_le_right _ _)⟩
  else bitmap

/-- Allocates a cluster. A cluster that the heap does not have is ignored. -/
def allocate (bitmap : Bitmap) (cluster : Nat) : Bitmap :=
  if cluster < firstCluster then bitmap
  else bitmap.allocatePlaces (cluster - firstCluster) (cluster - firstCluster + 1)

/-- Allocates the clusters of a range, as far as the heap has them and their numbers
fit 32 bits. -/
def allocateRange (bitmap : Bitmap) (first count : Nat) : Bitmap :=
  bitmap.allocatePlaces (first - firstCluster) (min (first + count) 0xFFFFFFFF - firstCluster)

/-- How many clusters are allocated. -/
def countAllocated (bitmap : Bitmap) : Nat := (bitmap.runs.map Run.length).sum

/-- How many clusters are free. -/
def countFree (bitmap : Bitmap) : Nat := bitmap.clusterCount - bitmap.countAllocated

/-- How many bytes the bitmap has on disk. -/
def byteCount (bitmap : Bitmap) : Nat := (bitmap.clusterCount + 7) / 8

/-- The bitmap has no bytes. -/
def isEmpty (bitmap : Bitmap) : Bool := bitmap.byteCount == 0

/-! ### The bytes on disk -/

/-- The byte at an index, of the eight bits from eight times there. -/
def byteOf (bits : Nat → Bool) (index : Nat) : UInt8 :=
  let value (offset : Nat) (value : UInt8) : UInt8 :=
    if bits (8 * index + offset) then value else 0
  value 0 0x01 ||| value 1 0x02 ||| value 2 0x04 ||| value 3 0x08 ||| value 4 0x10 |||
    value 5 0x20 ||| value 6 0x40 ||| value 7 0x80

/-- The indices of the bytes in which a run starts or stops, in order. Between two of
them all bytes are the same. -/
def edges (bitmap : Bitmap) : List Nat :=
  bitmap.runs.flatMap fun run => [run.first / 8, run.stop / 8]

/-- The bytes from an index up to another, which is left out, when only those at the
edges differ from the byte before them. -/
def bytesBetween (bits : Nat → Bool) (stop : Nat) (index : Nat) : (edges : List Nat) → Content
  | [] => .fill (byteOf bits index) (stop - index)
  | edge :: rest =>
    if index ≤ edge ∧ edge < stop then
      .fill (byteOf bits index) (edge - index) ++ .ofList [byteOf bits edge] ++
        bytesBetween bits stop (edge + 1) rest
    else bytesBetween bits stop index rest

/-- The bytes of the bitmap on disk. -/
def bytes (bitmap : Bitmap) : Content :=
  bytesBetween bitmap.bit bitmap.byteCount 0 bitmap.edges

theorem size_bytesBetween (bits : Nat → Bool) {stop index : Nat} (edges : List Nat)
    (le : index ≤ stop) : (bytesBetween bits stop index edges).size = stop - index := by
  induction edges generalizing index with
  | nil => simp [bytesBetween]
  | cons edge rest inductionHypothesis =>
    unfold bytesBetween
    split
    · rw [Content.size_append, Content.size_append, Content.size_fill, Content.size_ofList,
        inductionHypothesis (by omega)]
      simp only [List.length_cons, List.length_nil]
      omega
    · exact inductionHypothesis le

theorem size_bytes (bitmap : Bitmap) : bitmap.bytes.size = bitmap.byteCount :=
  size_bytesBetween _ _ (Nat.zero_le _)

end Bitmap

end CardFormat.ExFat
