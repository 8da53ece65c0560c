/-
This file gives account of everything that is asked of a writer whose device may fail, in any
pattern, when the requests go on after errors. The stream is what the requests have added by
moving the writer on. No byte of it goes astray: what the device has taken is the stream at its
own offset. No byte is missing in silence either: a block that is not on the device was lost by
one request, and that request has ended with the error of the device. A request can end with
such an error in one other way only, when whole blocks are declined; then the stream stays
where they were to begin.
-/

import CardFormat.Proofs.Bytes.Content
import CardFormat.Proofs.Device.Memory
import CardFormat.Proofs.Writer.Failures
import CardFormat.Proofs.Writer.Watched
import Mathlib.Logic.ExistsUnique

namespace CardFormat

/-! ### Devices that keep what they take -/

/-- What is on the device changes by the writes that succeed, and a write that fails is without
effect. -/
structure KeepsWrites {Device : Type} [BlockDevice Device] (contents : Device → Content) :
    Prop where
  of_ok : ∀ (start : Nat) (bytes : Content) (device next : Device), 0 < bytes.size →
    BlockDevice.write start bytes device = .ok () next →
    (contents next).toList = ((contents device).overwrite (start * sectorBytes) bytes).toList
  of_error : ∀ (start : Nat) (bytes : Content) (device next : Device) (error : IoError),
    BlockDevice.write start bytes device = .error error next →
    (contents next).toList = (contents device).toList

theorem MemoryDevice.keepsWrites : KeepsWrites MemoryDevice.data where
  of_ok start bytes device next _ result := by
    rw [(proceed_eq_ok_iff.1 result).2]
    rfl
  of_error start bytes device next error result := by
    rw [(proceed_eq_error_iff.1 result).2]

namespace Writer

variable {Device : Type} [BlockDevice Device]

/-! ### The account of a device -/

/-- What the device has taken is the stream at its own offset, and it has all the blocks of the
stream but those that were lost. -/
structure Account (contents : Device → Content) (lost : List Nat) (stream : List UInt8)
    (watched : Watched Device) : Prop where
  carried : ∀ start bytes, ⟨.write start bytes, none⟩ ∈ watched.calls →
    bytes.toList <+: stream.drop (start * sectorBytes)
  stored : ∀ block, (block + 1) * blockBytes ≤ stream.length → block ∉ lost →
    (contents watched.device).Has stream (block * blockBytes) ((block + 1) * blockBytes)

omit [BlockDevice Device] in
/-- What was carried stays in its place when the stream gets longer. -/
theorem prefix_drop_append {bytes stream : List UInt8} {offset : Nat}
    (carried : bytes <+: stream.drop offset) (more : List UInt8) :
    bytes <+: (stream ++ more).drop offset := by
  rw [List.drop_append]
  exact carried.trans (List.prefix_append _ _)

omit [BlockDevice Device] in
theorem account_nil (contents : Device → Content) (device : Device) :
    Account contents [] [] (Watched.of device) where
  carried start bytes member := by cases member
  stored block inside _ := by
    rw [List.length_nil, Nat.succ_mul] at inside
    exact absurd (Nat.le_trans (Nat.le_add_left _ _) inside) (Nat.not_le_of_lt blockBytes_pos)

theorem withstands_account {contents : Device → Content} (keeps : KeepsWrites contents) :
    Withstands (Account contents) where
  stored lost written watched next blocks bytes account length_eq some result := by
    obtain ⟨result, calls_eq⟩ := Watched.noting_eq_ok_iff.1 result
    have place : blocks * blockSectors * sectorBytes = written.length := by
      rw [length_eq, Nat.mul_assoc]
      rfl
    have overwritten := keeps.of_ok _ _ _ _ some result
    rw [place] at overwritten
    constructor
    · intro start found member
      rw [calls_eq] at member
      rcases List.mem_append.1 member with before | last
      · exact prefix_drop_append (account.carried start found before) _
      · cases List.mem_singleton.1 last
        simp only [place, List.drop_left, List.prefix_refl]
    · intro block inside kept
      refine Content.Has.of_toList_eq ?_ overwritten
      by_cases before : (block + 1) * blockBytes ≤ written.length
      · refine ((account.stored block before kept).append before _).overwrite ?_ before
        rw [List.length_append]
        exact Nat.le_trans before (Nat.le_add_right _ _)
      · -- The block begins behind what was there before.
        have behind : written.length ≤ block * blockBytes := by
          rw [length_eq] at before ⊢
          refine Nat.mul_le_mul_right blockBytes ?_
          exact Nat.le_of_lt_succ (Nat.lt_of_mul_lt_mul_right (Nat.lt_of_not_le before))
        have whole : ((contents watched.device).overwrite written.length bytes).Has
            (written ++ bytes.toList) written.length (written ++ bytes.toList).length := by
          refine Content.has_overwrite ?_
          simp only [List.drop_left, List.prefix_refl]
        exact fun offset first stop => whole offset (Nat.le_trans behind first)
          (Nat.lt_of_lt_of_le stop inside)
  lost lost written watched next blocks bytes error account length_eq size_eq result := by
    obtain ⟨result, calls_eq⟩ := Watched.noting_eq_error_iff.1 result
    constructor
    · intro start found member
      rw [calls_eq] at member
      rcases List.mem_append.1 member with before | last
      · exact prefix_drop_append (account.carried start found before) _
      · cases List.mem_singleton.1 last
    · intro block inside kept
      rw [List.length_append, length_eq, Content.length_toList, size_eq, ← Nat.succ_mul] at inside
      rw [List.mem_append, List.mem_singleton, not_or] at kept
      have before : (block + 1) * blockBytes ≤ written.length := by
        rw [length_eq]
        refine Nat.mul_le_mul_right _ (Nat.lt_of_le_of_ne ?_ kept.2)
        exact Nat.le_of_succ_le_succ (Nat.le_of_mul_le_mul_right inside blockBytes_pos)
      exact ((account.stored block before kept.1).append before _).of_toList_eq
        (keeps.of_error _ _ _ _ _ result)
  declined lost written watched next blocks bytes error account result := by
    obtain ⟨result, calls_eq⟩ := Watched.noting_eq_error_iff.1 result
    constructor
    · intro start found member
      rw [calls_eq] at member
      rcases List.mem_append.1 member with before | last
      · exact account.carried start found before
      · cases List.mem_singleton.1 last
    · intro block inside kept
      exact (account.stored block inside kept).of_toList_eq (keeps.of_error _ _ _ _ _ result)

omit [BlockDevice Device] in
/-- The account of the whole blocks is the account of the stream. -/
theorem account_whole {contents : Device → Content} {lost : List Nat} {stream : List UInt8}
    {writer : Writer (Watched Device)} (carries : Carries (Account contents lost) stream writer) :
    Account contents lost stream writer.device := by
  obtain ⟨carried, stored⟩ := carries.holds
  have whole := List.take_append_drop (writer.blocks * blockBytes) stream
  constructor
  · intro start bytes member
    rw [← whole]
    exact prefix_drop_append (carried start bytes member) _
  · intro block complete kept
    have inside : (block + 1) * blockBytes ≤
        (stream.take (writer.blocks * blockBytes)).length := by
      rw [carries.length_take, carries.blocks_eq]
      exact Nat.mul_le_mul_right _ ((Nat.le_div_iff_mul_le blockBytes_pos).2 complete)
    rw [← whole]
    exact (stored block inside kept).append inside _

/-! ### What a request adds, and how it fails -/

namespace Request

/-- The bytes that a request is to append to a stream that is so long: zeros up to its offset,
and its own bytes. A request that goes back has none. -/
def asked (position : Nat) (request : Request) : List UInt8 :=
  if request.target position < position then []
  else List.replicate (request.target position - position) 0 ++ request.content.toList

/-- What the stream gets of these bytes: as many as the request moves the writer on. -/
def taken (writer : Writer Device) (request : Request) : List UInt8 :=
  (request.asked writer.position).take ((request.after writer).position - writer.position)

/-- The request loses a block. It is to complete the block, but the device fails to write it;
the request ends with the error, and the stream is behind the block. -/
def Loses (block : Nat) (writer : Writer (Watched Device)) (request : Request) : Prop :=
  ∃ error next stored bytes, request.perform writer = .error error next ∧
    next.device.calls =
      writer.device.calls ++ stored ++ [⟨.write (block * blockSectors) bytes, some error⟩] ∧
    (∀ record ∈ stored, record.IsStored) ∧ bytes.size = blockBytes ∧
    writer.position < (block + 1) * blockBytes ∧ next.position = (block + 1) * blockBytes

/-- The device fails to write whole blocks at once; the request ends with the error, and the
stream is where they were to begin. -/
def Declines (writer : Writer (Watched Device)) (request : Request) : Prop :=
  ∃ block error next stored bytes, request.perform writer = .error error next ∧
    next.device.calls =
      writer.device.calls ++ stored ++ [⟨.write (block * blockSectors) bytes, some error⟩] ∧
    (∀ record ∈ stored, record.IsStored) ∧ bytes.size % blockBytes = 0 ∧ 0 < bytes.size ∧
    next.position = block * blockBytes

/-- The writer is as far as the stream before and after the request. If the request succeeds,
all that it asked is in the stream. If it fails, it goes back and has made no call, or it loses
a block, or whole blocks are declined. -/
structure Settled (stream : List UInt8) (writer : Writer (Watched Device)) (request : Request) :
    Prop where
  position_eq : writer.position = stream.length
  position_after : (request.after writer).position = (stream ++ request.taken writer).length
  complete : ∀ next, request.perform writer = .ok () next →
    request.taken writer = request.asked writer.position
  failed : ∀ error next, request.perform writer = .error error next →
    request.target writer.position < writer.position ∧ next = writer ∨
      (∃ block, request.Loses block writer) ∨ request.Declines writer

variable {Holds : List Nat → List UInt8 → Watched Device → Prop} {lost : List Nat}
  {stream : List UInt8} {writer : Writer (Watched Device)} {request : Request}

/-- A request that does not go back appends what it asks, as far as the device allows. -/
theorem ends (withstands : Withstands Holds) (carries : Carries (Holds lost) stream writer)
    (forward : stream.length ≤ request.target stream.length) :
    Ends Holds lost stream (request.asked stream.length) writer.device.calls id
      (request.perform writer) := by
  rw [asked, if_neg (Nat.not_lt_of_le forward)]
  cases request with
  | fill offset =>
    have ends := fill_ends withstands carries forward
    rw [content, Content.toList_empty, List.append_nil]
    exact ends
  | append bytes =>
    have ends := append_ends withstands carries bytes
    rw [target, Nat.sub_self]
    exact ends
  | appendAt offset bytes => exact appendAt_ends withstands carries forward bytes

/-- The stream gets the part of the bytes by which the writer has moved on. -/
theorem taken_eq {part rest : List UInt8} {found : List UInt8 → Watched Device → Prop}
    (position_eq : writer.position = stream.length)
    (split : request.asked stream.length = part ++ rest)
    (carries : Carries found (stream ++ part) (request.after writer)) :
    request.taken writer = part := by
  rw [taken, carries.position_eq, position_eq, split, List.length_append, Nat.add_sub_cancel_left,
    List.take_left]

/-- A request that fails behind a part of its bytes is settled, and the stream gets this part. -/
theorem settled_of_error {part rest : List UInt8} {found : List UInt8 → Watched Device → Prop}
    {error : IoError} {next : Writer (Watched Device)}
    (position_eq : writer.position = stream.length)
    (outcome : request.perform writer = .error error next)
    (split : request.asked stream.length = part ++ rest)
    (carries : Carries found (stream ++ part) next)
    (cause : (∃ block, request.Loses block writer) ∨ request.Declines writer) :
    request.Settled stream writer ∧
      Carries found (stream ++ request.taken writer) (request.after writer) := by
  rw [← show request.after writer = next by rw [Request.after, outcome]] at carries
  have some := taken_eq position_eq split carries
  refine ⟨⟨position_eq, ?_, fun other succeeds => ?_, fun _ _ _ => .inr cause⟩, ?_⟩
  · rw [some]
    exact carries.position_eq
  · rw [outcome] at succeeds
    cases succeeds
  · rw [some]
    exact carries

/-- Every request is settled, and the account goes on behind it. -/
theorem settled_and_carries (withstands : Withstands Holds)
    (carries : Carries (Holds lost) stream writer) :
    request.Settled stream writer ∧
      (Carries (Holds lost) (stream ++ request.taken writer) (request.after writer) ∨
        ∃ block, request.Loses block writer ∧
          Carries (Holds (lost ++ [block])) (stream ++ request.taken writer)
            (request.after writer)) := by
  have position_eq := carries.position_eq
  by_cases back : request.target stream.length < stream.length
  · have result := perform_eq_error position_eq back
    have unmoved : request.after writer = writer := by
      rw [Request.after, result]
    have nothing : request.taken writer = [] := by
      rw [taken, unmoved, Nat.sub_self, List.take_zero]
    refine ⟨⟨position_eq, ?_, ?_, ?_⟩, .inl ?_⟩
    · rw [unmoved, nothing, List.append_nil, position_eq]
    · intro next succeeds
      rw [result] at succeeds
      cases succeeds
    · intro error next fails
      rw [result] at fails
      cases fails
      exact .inl ⟨position_eq.symm ▸ back, rfl⟩
    · rw [unmoved, nothing, List.append_nil]
      exact carries
  · have ends := request.ends withstands carries (Nat.le_of_not_lt back)
    generalize outcome : request.perform writer = result at ends
    cases ends with
    | @taken next stored carried calls_eq succeeded =>
      rw [← show request.after writer = next by rw [Request.after, outcome]] at carried
      have all := taken_eq position_eq (List.append_nil _).symm carried
      refine ⟨⟨position_eq, ?_, fun _ _ => ?_, ?_⟩, .inl ?_⟩
      · rw [all]
        exact carried.position_eq
      · rw [all, position_eq]
      · intro error other fails
        rw [outcome] at fails
        cases fails
      · rw [all]
        exact carried
    | @lost next error block stored part rest bytes split carried before length_eq bytes_eq
        calls_eq succeeded =>
      have loses : request.Loses block writer := by
        refine ⟨error, next, stored, bytes, outcome, calls_eq, succeeded, ?_, ?_, ?_⟩
        · rw [← Content.length_toList, bytes_eq, List.length_drop, length_eq, Nat.succ_mul,
            Nat.add_sub_cancel_left]
        · rw [position_eq]
          exact before
        · rw [carried.position_eq, length_eq]
      obtain ⟨settled, onward⟩ := settled_of_error position_eq outcome split carried
        (.inl ⟨block, loses⟩)
      exact ⟨settled, .inr ⟨block, loses, onward⟩⟩
    | @declined next error block stored part rest bytes split carried length_eq whole positive
        begins calls_eq succeeded =>
      have declines : request.Declines writer := by
        refine ⟨block, error, next, stored, bytes, outcome, calls_eq, succeeded, whole, positive,
          ?_⟩
        rw [carried.position_eq, length_eq]
      obtain ⟨settled, onward⟩ := settled_of_error position_eq outcome split carried
        (.inr declines)
      exact ⟨settled, .inl onward⟩

end Request

/-! ### Runs of requests -/

/-- What the stream gets from the requests, one after another. -/
def takenAll (writer : Writer Device) : List Request → List UInt8
  | [] => []
  | request :: rest => request.taken writer ++ takenAll (request.after writer) rest

/-- The request at the index loses the block, when the requests before it were made. -/
def LosesAt (writer : Writer (Watched Device)) (requests : List Request) (block index : Nat) :
    Prop :=
  ∃ request, requests[index]? = some request ∧
    request.Loses block ((requests.take index).foldl Request.after writer)

variable {Holds : List Nat → List UInt8 → Watched Device → Prop} {lost : List Nat}
  {stream : List UInt8} {writer : Writer (Watched Device)}

/-- After any requests the writer carries what they gave to the stream, and every block that
was lost on the way was lost by one of them. -/
theorem carries_takenAll (withstands : Withstands Holds)
    (carries : Carries (Holds lost) stream writer) (requests : List Request) :
    ∃ more, Carries (Holds (lost ++ more)) (stream ++ takenAll writer requests)
        (requests.foldl Request.after writer) ∧
      ∀ block ∈ more, ∃ index, LosesAt writer requests block index := by
  induction requests generalizing stream writer lost with
  | nil =>
    refine ⟨[], ?_, fun block member => absurd member List.not_mem_nil⟩
    rw [takenAll, List.append_nil, List.append_nil]
    exact carries
  | cons request rest inductionHypothesis =>
    have later : ∀ block index, LosesAt (request.after writer) rest block index →
        LosesAt writer (request :: rest) block (index + 1) := by
      rintro block index ⟨found, found_eq, loses⟩
      exact ⟨found, found_eq, loses⟩
    rw [takenAll, ← List.append_assoc]
    rcases (request.settled_and_carries withstands carries).2 with kept | ⟨block, loses, carried⟩
    · obtain ⟨more, onward, losses⟩ := inductionHypothesis kept
      refine ⟨more, onward, fun block member => ?_⟩
      obtain ⟨index, found⟩ := losses block member
      exact ⟨index + 1, later block index found⟩
    · obtain ⟨more, onward, losses⟩ := inductionHypothesis carried
      refine ⟨block :: more, ?_, fun other member => ?_⟩
      · rw [List.append_cons]
        exact onward
      · rcases List.mem_cons.1 member with rfl | member
        · exact ⟨0, request, rfl, loses⟩
        · obtain ⟨index, found⟩ := losses other member
          exact ⟨index + 1, later other index found⟩

/-- The stream never gets shorter. -/
theorem position_le_foldl_after (withstands : Withstands Holds)
    (carries : Carries (Holds lost) stream writer) (requests : List Request) :
    writer.position ≤ (requests.foldl Request.after writer).position := by
  obtain ⟨more, carried, -⟩ := carries_takenAll withstands carries requests
  rw [carries.position_eq, carried.position_eq]
  exact (List.prefix_append _ _).length_le

/-- A block that was lost is behind the stream, so no later request can lose it again. -/
theorem losesAt_unique (withstands : Withstands Holds)
    (carries : Carries (Holds lost) stream writer) {requests : List Request}
    {block first second : Nat} (one : LosesAt writer requests block first)
    (other : LosesAt writer requests block second) : first = second := by
  have ordered : ∀ earlier later, LosesAt writer requests block earlier →
      LosesAt writer requests block later → ¬earlier < later := by
    rintro earlier later ⟨request, found, _, next, _, _, result, -, -, -, -, passed⟩
      ⟨_, -, _, _, _, _, -, -, -, -, before, -⟩ less
    -- The requests up to the later index begin with those up to the earlier one.
    obtain ⟨gap, rfl⟩ := Nat.exists_eq_add_of_lt less
    have split : requests.take (earlier + gap + 1) =
        requests.take (earlier + 1) ++ (requests.drop (earlier + 1)).take gap := by
      rw [show earlier + gap + 1 = earlier + 1 + gap from Nat.add_right_comm _ _ _, List.take_add]
    have step : (requests.take (earlier + 1)).foldl Request.after writer = next := by
      rw [List.take_add_one, found, List.foldl_append]
      show Request.after _ request = next
      rw [Request.after, result]
    obtain ⟨more, carried, -⟩ := carries_takenAll withstands carries (requests.take (earlier + 1))
    have onward := position_le_foldl_after withstands carried
      ((requests.drop (earlier + 1)).take gap)
    rw [split, List.foldl_append] at before
    rw [step] at before onward
    rw [passed] at onward
    exact Nat.not_lt_of_le onward before
  rcases Nat.lt_trichotomy first second with less | equal | more
  · exact absurd less (ordered _ _ one other)
  · exact equal
  · exact absurd more (ordered _ _ other one)

/-! ### The end of the stream -/

/-- What a flush leaves that succeeds. The rest of the stream is on the device behind its whole
blocks, and what the device had of these it still has. If there was a rest, one write carried
it, with zeros up to the end of its sector. -/
structure Flushed (contents : Device → Content) (stream : List UInt8)
    (writer next : Writer (Watched Device)) : Prop where
  tail : (contents next.device.device).Has stream (stream.length / blockBytes * blockBytes)
    stream.length
  kept : ∀ first stop, stop ≤ stream.length / blockBytes * blockBytes →
    (contents writer.device.device).Has stream first stop →
    (contents next.device.device).Has stream first stop
  calls : stream.length % blockBytes = 0 ∧ next.device.calls = writer.device.calls ∨
    ∃ bytes padding, padding < sectorBytes ∧
      bytes.toList = stream.drop (stream.length / blockBytes * blockBytes) ++
        List.replicate padding 0 ∧
      next.device.calls = writer.device.calls ++
        [⟨.write (stream.length / blockBytes * blockSectors) bytes, none⟩]

theorem flushed_of_flush {contents : Device → Content} (keeps : KeepsWrites contents)
    (carries : Carries (Account contents lost) stream writer) {length : Nat}
    {next : Writer (Watched Device)} (result : flush writer = .ok length next) :
    length = stream.length ∧ Flushed contents stream writer next := by
  have sum := carries.blocks_add_pending
  rcases flush_cases writer with ⟨nothing, ends⟩ |
    ⟨bytes, bytes_eq, some, ⟨device, stored, ends⟩ | ⟨error, device, -, ends⟩⟩
  · rw [ends] at result
    cases result
    rw [nothing, Nat.add_zero] at sum
    refine ⟨carries.position_eq, ?_, fun _ _ _ has => has, .inl ⟨?_, rfl⟩⟩
    · intro offset first stop
      rw [← carries.blocks_eq, sum] at first
      exact absurd stop (Nat.not_lt_of_le first)
    · rw [← sum, Nat.mul_mod_left]
  · rw [ends] at result
    cases result
    obtain ⟨stored, calls_eq⟩ := Watched.noting_eq_ok_iff.1 stored
    have overwritten := keeps.of_ok _ _ _ _ some stored
    rw [show writer.blocks * blockSectors * sectorBytes = writer.blocks * blockBytes from
      Nat.mul_assoc _ _ _, carries.blocks_eq] at overwritten
    rw [carries.pending_eq, carries.blocks_eq] at bytes_eq
    rw [carries.blocks_eq] at calls_eq
    refine ⟨carries.position_eq, ?_, fun first stop before has => ?_,
      .inr ⟨bytes, sectorPadding writer.pending.size, ?_, bytes_eq, calls_eq⟩⟩
    · refine Content.Has.of_toList_eq (Content.has_overwrite ?_) overwritten
      rw [bytes_eq]
      exact List.prefix_append _ _
    · exact (has.overwrite (Nat.le_trans before (Nat.div_mul_le_self _ _)) before).of_toList_eq
        overwritten
    · unfold sectorPadding sectorBytes
      omega
  · rw [ends] at result
    cases result

/-- Requests go on after errors, on a device whose writes may fail in any pattern. The device is
watched, which changes nothing. Every request is settled, and the writer is as far as the stream
that the requests have made. Every write that succeeded carries the bytes of the stream at its
own offset. Every block that is complete is on the device, or exactly one request has lost it
and has ended with the error of the device. A flush that succeeds gives the length of the stream
and puts the rest of it on the device. -/
theorem requests_withstand_failures {contents : Device → Content} (keeps : KeepsWrites contents)
    (device : Device) (requests : List Request) :
    let writer := start (Watched.of device)
    let stream := takenAll writer requests
    let final := requests.foldl Request.after writer
    final.unwatched = requests.foldl Request.after (start device) ∧
    (∀ earlier request later, requests = earlier ++ request :: later →
      request.Settled (takenAll writer earlier) (earlier.foldl Request.after writer)) ∧
    final.position = stream.length ∧
    (∀ start bytes, ⟨.write start bytes, none⟩ ∈ final.device.calls →
      bytes.toList <+: stream.drop (start * sectorBytes)) ∧
    (∀ block, (block + 1) * blockBytes ≤ stream.length →
      (contents final.device.device).Has stream (block * blockBytes) ((block + 1) * blockBytes) ∨
        ∃! index, LosesAt writer requests block index) ∧
    (∀ length next, flush final = .ok length next →
      length = stream.length ∧ Flushed contents stream final next) := by
  intro writer stream final
  have withstands := withstands_account keeps
  have begins := carries_start (account_nil contents device)
  obtain ⟨lost, carries, losses⟩ := carries_takenAll withstands begins requests
  refine ⟨unwatched_foldl_after writer requests, ?_, carries.position_eq, ?_, ?_, ?_⟩
  · rintro earlier request later -
    obtain ⟨before, carried, -⟩ := carries_takenAll withstands begins earlier
    exact (request.settled_and_carries withstands carried).1
  · exact (account_whole carries).carried
  · intro block complete
    by_cases member : block ∈ lost
    · obtain ⟨index, found⟩ := losses block member
      exact .inr ⟨index, found, fun other again => losesAt_unique withstands begins again found⟩
    · exact .inl ((account_whole carries).stored block complete member)
  · exact fun length next result => flushed_of_flush keeps carries result

/-- The first block goes behind the stream when the device refuses it. -/
theorem after_fill_refused {watched : Watched Device}
    (refused : ∀ start bytes, ∃ error,
      BlockDevice.write start bytes watched.device = .error error watched.device) :
    ∃ calls, (Request.fill blockBytes).after (start watched) =
      atBlock ⟨watched.device, calls⟩ 1 := by
  have full : blockBytes ≤ (start watched).pending.size + (Content.zeros blockBytes).size := by
    rw [Content.size_zeros]
    exact Nat.le_add_left _ _
  have nothing : (start watched).position = 0 :=
    (position_atBlock watched 0).trans (Nat.zero_mul _)
  generalize bytes_eq : (start watched).pending ++ (Content.zeros blockBytes).take
    (blockBytes - (start watched).pending.size) = bytes
  obtain ⟨error, result⟩ := refused ((start watched).blocks * blockSectors) bytes
  generalize calls_eq : watched.calls ++
    [⟨.write ((start watched).blocks * blockSectors) bytes, some error⟩] = calls
  have noted : BlockDevice.write ((start watched).blocks * blockSectors) bytes watched =
      .error error ⟨watched.device, calls⟩ :=
    Watched.noting_eq_error_iff.2 ⟨result, calls_eq.symm⟩
  have put : putBlocks bytes 1 1 (start watched) =
      .error error (atBlock ⟨watched.device, calls⟩ 1) := by
    unfold putBlocks
    simp only [show BlockDevice.write _ bytes (start watched).device = _ from noted]
    rfl
  refine ⟨calls, ?_⟩
  have pushed := (push_of_le full).trans (bytes_eq ▸ Action.bind_of_error put _)
  rw [Request.after, Request.perform, fill, nothing, if_neg (Nat.not_lt_zero _), Nat.sub_zero,
    pushed]

/-- A new image that refuses all writes is asked for the zeros of a block. The request loses the
block, and no other does. -/
theorem requests_withstand_failures_refused :
    let writer := start (Watched.of { MemoryDevice.image 0 with writeLimit := some 0 })
    KeepsWrites MemoryDevice.data ∧ (takenAll writer [.fill blockBytes]).length = blockBytes ∧
      ∃! index, LosesAt writer [.fill blockBytes] 0 index := by
  intro writer
  obtain ⟨-, -, position_eq, -, blocks, -⟩ := requests_withstand_failures
    MemoryDevice.keepsWrites { MemoryDevice.image 0 with writeLimit := some 0 } [.fill blockBytes]
  obtain ⟨calls, final⟩ := @after_fill_refused _ _
    (Watched.of { MemoryDevice.image 0 with writeLimit := some 0 })
    (MemoryDevice.write_of_limit rfl (Nat.le_refl 0))
  simp only [List.foldl_cons, List.foldl_nil, final, position_atBlock, Nat.one_mul]
    at position_eq blocks
  have length_eq : (takenAll writer [.fill blockBytes]).length = blockBytes := position_eq.symm
  have known := blocks 0 (Nat.le_of_eq ((Nat.one_mul _).trans position_eq))
  refine ⟨MemoryDevice.keepsWrites, length_eq, known.resolve_left fun has => ?_⟩
  -- Nothing was written, so the block is not on the device.
  rw [Content.Has] at has
  have begins : 0 * blockBytes ≤ 0 := Nat.le_of_eq (Nat.zero_mul blockBytes)
  have ends : 0 < (0 + 1) * blockBytes := Nat.mul_pos (Nat.succ_pos 0) blockBytes_pos
  have missing := List.getElem?_eq_none_iff.1 (has 0 begins ends).symm
  exact Nat.not_le_of_lt blockBytes_pos (length_eq ▸ missing)

end Writer

end CardFormat
