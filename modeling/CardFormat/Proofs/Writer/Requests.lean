/-
This file proves that a writer is a plain stream of bytes to those who use it. They fill up
to an offset, append, and append at an offset, in any order and any amounts. The stream is
what all this comes to without blocks: a request that goes back does nothing, and any other
makes the stream longer. The writer answers each request as the stream does, and in the end
a device in memory that takes the writes holds the stream.
-/

import CardFormat.Proofs.Device.Memory

namespace CardFormat.Writer

/-- What is asked of a writer. -/
inductive Request where
  | fill (offset : Nat)
  | append (bytes : Content)
  | appendAt (offset : Nat) (bytes : Content)

namespace Request

/-- Where the bytes of a request go in a stream that is so long. -/
def target (position : Nat) : Request → Nat
  | .fill offset => offset
  | .append _ => position
  | .appendAt offset _ => offset

/-- The bytes of a request, without the zeros before them. -/
def content : Request → Content
  | .fill _ => .empty
  | .append bytes => bytes
  | .appendAt _ bytes => bytes

/-- What the request makes of a stream. One that goes back leaves it as it was. -/
def extend (stream : List UInt8) (request : Request) : List UInt8 :=
  if request.target stream.length < stream.length then stream
  else Stream.laid stream ⟨request.target stream.length, request.content.toList⟩

/-- The length of the stream after the request. -/
def advance (position : Nat) (request : Request) : Nat :=
  if request.target position < position then position
  else request.target position + request.content.size

/-- The writes that the request takes. -/
def writes (position : Nat) (request : Request) : Nat :=
  if request.target position < position then 0
  else appendAtWrites position (request.target position) request.content.size

section

variable {Device : Type} [BlockDevice Device]

/-- What a writer does with the request. -/
def perform : Request → Writing Device Unit
  | .fill offset => Writer.fill offset
  | .append bytes => Writer.append bytes
  | .appendAt offset bytes => Writer.appendAt offset bytes

/-- The writer after the request, whether it was refused or not. -/
def after (writer : Writer Device) (request : Request) : Writer Device :=
  match request.perform writer with
  | .ok _ next => next
  | .error _ next => next

/-- The writer answers the request as the stream does: it is as far as the stream before and
after, refuses to go back and is then as it was, and takes any other request. -/
structure Answered (stream : List UInt8) (request : Request) (writer : Writer Device) :
    Prop where
  position_eq : writer.position = stream.length
  position_after : (request.after writer).position = (request.extend stream).length
  refused : request.target stream.length < stream.length →
    request.perform writer = .error ⟨.invalidInput,
      s!"cannot fill backwards from {stream.length} to {request.target stream.length}"⟩ writer
  accepted : stream.length ≤ request.target stream.length →
    ∃ next, request.perform writer = .ok () next

end

end Request

/-- The stream that requests make. -/
def streamOf (requests : List Request) : List UInt8 :=
  requests.foldl Request.extend []

/-- The writes that requests take one after another, with the end of the stream. -/
def writesFrom : (position : Nat) → List Request → Nat
  | position, [] => flushWrites position
  | position, request :: rest =>
    request.writes position + writesFrom (request.advance position) rest

/-! ### One request -/

namespace Request

theorem length_extend (stream : List UInt8) (request : Request) :
    (request.extend stream).length = request.advance stream.length := by
  unfold extend advance
  split
  · rfl
  · rename_i forward
    rw [Stream.length_laid (Nat.le_of_not_lt forward), Content.length_toList]

theorem prefix_extend (stream : List UInt8) (request : Request) :
    stream <+: request.extend stream := by
  unfold extend
  split
  · exact List.prefix_refl stream
  · exact Stream.prefix_laidAll stream [_]

variable {Device : Type} [BlockDevice Device] {Holds : Nat → List UInt8 → Device → Prop}
  {most widest limit count : Nat} {stream : List UInt8} {writer : Writer Device}
  {request : Request}

theorem fill_eq_error {offset : Nat} (back : offset < writer.position) :
    Writer.fill offset writer = .error ⟨.invalidInput,
      s!"cannot fill backwards from {writer.position} to {offset}"⟩ writer :=
  if_pos back

/-- The writer does not go back, and stays as it was. -/
theorem perform_eq_error (position_eq : writer.position = stream.length)
    (back : request.target stream.length < stream.length) :
    request.perform writer = .error ⟨.invalidInput,
      s!"cannot fill backwards from {stream.length} to {request.target stream.length}"⟩ writer := by
  rw [← position_eq] at back ⊢
  cases request with
  | fill offset => exact fill_eq_error back
  | append bytes => exact absurd back (Nat.lt_irrefl _)
  | appendAt offset bytes => exact Action.bind_of_error (fill_eq_error back) _

/-- Any other request takes the stream on. -/
theorem perform_reaches (takes : Takes Holds most widest limit) (block : blockBytes ≤ widest)
    (carries : Carries (Holds count) stream writer) (within : count ≤ most)
    (forward : stream.length ≤ request.target stream.length)
    (narrow : request.content.size ≤ widest) (fits : request.advance stream.length ≤ limit) :
    Reaches Holds most (count + request.writes stream.length) (request.extend stream) id
      (request.perform writer) := by
  have onward := Nat.not_lt_of_le forward
  rw [advance, if_neg onward] at fits
  rw [writes, if_neg onward, extend, if_neg onward]
  cases request with
  | fill offset =>
    have nothing : appendWrites offset Content.empty.size = 0 := by
      rw [Content.size_empty, appendWrites_of_le (Nat.zero_le _), blocksCompleted_zero]
    have reached := fill_reaches takes block carries within forward fits
    rw [target, content, appendAtWrites, nothing, Nat.add_zero, Stream.laid, Content.toList_empty,
      List.append_nil]
    exact reached
  | append bytes =>
    have reached := append_reaches takes block carries within narrow fits
    rw [target, content, appendAtWrites, Stream.laid, Nat.sub_self, blocksCompleted_zero,
      Nat.zero_add, List.replicate_zero, List.append_nil]
    exact reached
  | appendAt offset bytes => exact appendAt_reaches takes block carries within forward narrow fits

/-- The writer answers a request, and then carries what the request makes of the stream. -/
theorem answered_and_carries (takes : Takes Holds most widest limit) (block : blockBytes ≤ widest)
    (carries : Carries (Holds count) stream writer)
    (enough : count + request.writes stream.length ≤ most)
    (narrow : limit ≤ widest) (fits : request.advance stream.length ≤ limit) :
    request.Answered stream writer ∧
      Carries (Holds (count + request.writes stream.length)) (request.extend stream)
        (request.after writer) := by
  by_cases back : request.target stream.length < stream.length
  · have result := perform_eq_error carries.position_eq back
    have unmoved : request.after writer = writer := by
      rw [Request.after, result]
    rw [writes, if_pos back, unmoved, Nat.add_zero]
    have same : request.extend stream = stream := if_pos back
    rw [same]
    refine ⟨⟨carries.position_eq, ?_, fun _ => result, ?_⟩, carries⟩
    · rw [unmoved, same]
      exact carries.position_eq
    · intro forward
      exact absurd back (Nat.not_lt_of_le forward)
  · have forward := Nat.le_of_not_lt back
    have inside := fits
    rw [advance, if_neg back] at inside
    obtain ⟨next, result, carried⟩ := (perform_reaches takes block carries
      (Nat.le_trans (Nat.le_add_right _ _) enough) forward
      (Nat.le_trans (Nat.le_trans (Nat.le_add_left _ _) inside) narrow) fits).of_le enough
    have moved : request.after writer = next := by
      rw [Request.after, result]
    rw [moved]
    refine ⟨⟨carries.position_eq, ?_, ?_, fun _ => ⟨next, result⟩⟩, carried⟩
    · rw [moved]
      exact carried.position_eq
    · intro impossible
      exact absurd impossible back

end Request

/-! ### One request after another -/

theorem prefix_foldl_extend (stream : List UInt8) (requests : List Request) :
    stream <+: requests.foldl Request.extend stream := by
  induction requests generalizing stream with
  | nil => exact List.prefix_refl stream
  | cons request rest inductionHypothesis =>
    exact List.IsPrefix.trans (Request.prefix_extend stream request) (inductionHypothesis _)

theorem length_foldl_extend (stream : List UInt8) (requests : List Request) :
    (requests.foldl Request.extend stream).length =
      requests.foldl Request.advance stream.length := by
  induction requests generalizing stream with
  | nil => rfl
  | cons request rest inductionHypothesis =>
    rw [List.foldl_cons, List.foldl_cons, inductionHypothesis, request.length_extend]

/-- The length of the stream is known without its bytes. -/
theorem length_streamOf (requests : List Request) :
    (streamOf requests).length = requests.foldl Request.advance 0 :=
  length_foldl_extend [] requests

section

variable {Device : Type} [BlockDevice Device] {Holds : Nat → List UInt8 → Device → Prop}
  {most widest limit count : Nat} {stream : List UInt8} {writer : Writer Device}

/-- After some of the requests the writer carries what they make of the stream, and the writes
for the others are left. -/
theorem carries_after (takes : Takes Holds most widest limit) (block : blockBytes ≤ widest)
    (narrow : limit ≤ widest) (earlier : List Request) {later : List Request}
    (carries : Carries (Holds count) stream writer)
    (enough : count + writesFrom stream.length (earlier ++ later) ≤ most)
    (fits : ((earlier ++ later).foldl Request.extend stream).length ≤ limit) :
    ∃ used, Carries (Holds used) (earlier.foldl Request.extend stream)
        (earlier.foldl Request.after writer) ∧
      used + writesFrom (earlier.foldl Request.extend stream).length later =
        count + writesFrom stream.length (earlier ++ later) := by
  induction earlier generalizing stream writer count with
  | nil => exact ⟨count, carries, rfl⟩
  | cons request rest inductionHypothesis =>
    rw [List.cons_append, writesFrom, ← Nat.add_assoc, ← request.length_extend] at enough ⊢
    rw [List.cons_append, List.foldl_cons] at fits
    have inside := Nat.le_trans (prefix_foldl_extend _ _).length_le fits
    rw [request.length_extend] at inside
    obtain ⟨-, carried⟩ := request.answered_and_carries takes block carries
      (Nat.le_trans (Nat.le_add_right _ _) enough) narrow inside
    exact inductionHypothesis carried enough fits

end

/-- A writer on a device in memory answers every request as the stream does. The end of the
stream puts the stream on the device, padded with zeros to a sector, and nothing else: the
writes lie one behind the other from the start of the device, and there are as many as the
requests take. The device has to take that many, and have room for the stream. -/
theorem requests_refine_stream (device : MemoryDevice) (requests : List Request)
    (opened : 0 < writesFrom 0 requests → device.closed = false)
    (enough : ∀ bound, device.writeLimit = some bound →
      device.writes.length + writesFrom 0 requests ≤ bound)
    (room : device.regularFile = true ∨
      (streamOf requests).length + sectorPadding (streamOf requests).length ≤
        device.sectors * sectorBytes) :
    (∀ earlier request later, requests = earlier ++ request :: later →
      request.Answered (streamOf earlier) (earlier.foldl Request.after (start device))) ∧
    ∃ final records, flush (requests.foldl Request.after (start device)) =
        .ok (streamOf requests).length final ∧
      device.Written (streamOf requests ++
        List.replicate (sectorPadding (streamOf requests).length) 0) final.device ∧
      final.device.writes = device.writes ++ records ∧
      records.length = writesFrom 0 requests ∧
      Tiling records ((streamOf requests).length + sectorPadding (streamOf requests).length) := by
  generalize limit_eq : (streamOf requests).length + sectorPadding (streamOf requests).length =
    limit at room ⊢
  have fits : (streamOf requests).length ≤ limit := limit_eq ▸ Nat.le_add_right _ _
  have block : blockBytes ≤ max blockBytes limit := Nat.le_max_left _ _
  have narrow : limit ≤ max blockBytes limit := Nat.le_max_right _ _
  have takes := MemoryDevice.takes_recorded (max blockBytes limit) opened enough room
  have carries := carries_start (device.recorded_nil (max blockBytes limit))
  constructor
  · rintro earlier request later rfl
    obtain ⟨used, carried, count⟩ := carries_after takes block narrow earlier carries
      (Nat.le_of_eq (Nat.zero_add _)) fits
    have inside : (request.extend (streamOf earlier)).length ≤ limit := by
      refine Nat.le_trans (prefix_foldl_extend _ later).length_le ?_
      rw [streamOf, List.foldl_append] at fits
      exact fits
    rw [request.length_extend] at inside
    rw [writesFrom, ← Nat.add_assoc, List.length_nil, Nat.zero_add] at count
    exact (request.answered_and_carries takes block carried
      (Nat.le_trans (Nat.le_add_right _ _) (Nat.le_of_eq count)) narrow inside).1
  · obtain ⟨used, carried, count⟩ := carries_after takes block narrow requests carries
      (Nat.le_of_eq (show 0 + writesFrom 0 (requests ++ []) = writesFrom 0 requests by
        rw [List.append_nil, Nat.zero_add]))
      (by rw [List.append_nil]; exact fits)
    rw [List.append_nil, writesFrom, List.length_nil, Nat.zero_add] at count
    obtain ⟨final, result, recorded⟩ := flush_eq_ok takes block carried (Nat.le_of_eq count)
      (Nat.le_of_eq limit_eq)
    obtain ⟨records, equal, length_eq, tiling⟩ := recorded.writes_eq
    refine ⟨final, records, result, recorded.toWritten, equal, length_eq.trans count, ?_⟩
    rw [List.length_append, List.length_replicate] at tiling
    exact limit_eq ▸ tiling

/-- A new image that allows five writes takes zeros over two blocks, three bytes, and two blocks
and a bit farther on; between them a request goes back. Three blocks go one after another, two
at once, and then the rest. -/
theorem requests_refine_stream_acrossBlocks :
    let requests := [.fill (2 * blockBytes + 9), .fill 5, .append (.ofList [1, 2, 3]),
      .appendAt (3 * blockBytes) (.fill 7 (2 * blockBytes + 100))]
    let writer := start { MemoryDevice.image 0 with writeLimit := some 5 }
    fill 5 ([Request.fill (2 * blockBytes + 9)].foldl Request.after writer) =
      .error ⟨.invalidInput, "cannot fill backwards from 8388617 to 5"⟩
        ([Request.fill (2 * blockBytes + 9)].foldl Request.after writer) ∧
    ∃ final, flush (requests.foldl Request.after writer) = .ok (5 * blockBytes + 100) final ∧
      final.device.writes.length = 5 ∧ Tiling final.device.writes (5 * blockBytes + 512) := by
  intro requests writer
  have length_eq : (streamOf requests).length = 5 * blockBytes + 100 := by
    rw [length_streamOf]
    decide
  have padding : sectorPadding (5 * blockBytes + 100) = 412 := by decide
  have used : writesFrom 0 requests = 5 := by decide
  obtain ⟨answers, final, records, result, -, equal, count, tiling⟩ :=
    requests_refine_stream { MemoryDevice.image 0 with writeLimit := some 5 } requests
      (fun _ => rfl) (by
        intro bound limited
        cases limited
        exact Nat.le_of_eq ((Nat.zero_add _).trans used)) (.inl rfl)
  have first : (streamOf [.fill (2 * blockBytes + 9)]).length = 2 * blockBytes + 9 := by
    rw [length_streamOf]
    decide
  have refused := (answers [_] (.fill 5) _ rfl).refused
  rw [first] at refused
  refine ⟨refused (by decide), final, ?_, ?_, ?_⟩
  · rw [result, length_eq]
  · rw [equal]
    exact count.trans used
  · rw [length_eq, padding] at tiling
    rw [equal]
    exact tiling

end CardFormat.Writer
