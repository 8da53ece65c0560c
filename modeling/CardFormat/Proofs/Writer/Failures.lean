/-
This file follows a writer on a device whose writes may fail, in any pattern. A writer meets
a failure in one of two ways. A block that is full and cannot be written is lost: the stream
goes on behind it, and what was to follow is not appended. Whole blocks that go to the device
together and cannot be written are declined: the stream stays where they were to begin. In
both cases the failed write is the last call that the writer makes. Between failures the
writer carries its stream as on any device, and this is kept from step to step.
-/

import CardFormat.Proofs.Device.Watched
import CardFormat.Proofs.Writer

namespace CardFormat.Writer

variable {Device : Type} [BlockDevice Device]

/-- What is said of a watched device for the blocks that were lost so far and for the stream
up to a block. It goes on holding, whether a write succeeds, a block is lost, or whole blocks
are declined. -/
structure Withstands (Holds : List Nat → List UInt8 → Watched Device → Prop) : Prop where
  stored : ∀ (lost : List Nat) (written : List UInt8) (watched next : Watched Device)
    (blocks : Nat) (bytes : Content), Holds lost written watched →
    written.length = blocks * blockBytes → 0 < bytes.size →
    BlockDevice.write (blocks * blockSectors) bytes watched = .ok () next →
    Holds lost (written ++ bytes.toList) next
  lost : ∀ (lost : List Nat) (written : List UInt8) (watched next : Watched Device)
    (blocks : Nat) (bytes : Content) (error : IoError), Holds lost written watched →
    written.length = blocks * blockBytes → bytes.size = blockBytes →
    BlockDevice.write (blocks * blockSectors) bytes watched = .error error next →
    Holds (lost ++ [blocks]) (written ++ bytes.toList) next
  declined : ∀ (lost : List Nat) (written : List UInt8) (watched next : Watched Device)
    (blocks : Nat) (bytes : Content) (error : IoError), Holds lost written watched →
    BlockDevice.write (blocks * blockSectors) bytes watched = .error error next →
    Holds lost written next

/-- How it ends when bytes are appended to a stream. They are all taken; or the stream takes
the bytes up to the end of a block that is lost; or it takes the bytes up to a block from which
on whole blocks are declined. -/
inductive Ends (Holds : List Nat → List UInt8 → Watched Device → Prop) (lost : List Nat)
    (stream asked : List UInt8) (calls : List CallRecord) {Cause : Type}
    (restate : IoError → Cause) : EStateM.Result Cause (Writer (Watched Device)) Unit → Prop
  | taken {next : Writer (Watched Device)} (stored : List CallRecord)
    (carries : Carries (Holds lost) (stream ++ asked) next)
    (calls_eq : next.device.calls = calls ++ stored)
    (succeeded : ∀ record ∈ stored, record.IsStored) :
    Ends Holds lost stream asked calls restate (.ok () next)
  | lost {next : Writer (Watched Device)} {error : IoError} (block : Nat)
    (stored : List CallRecord) (part rest : List UInt8) (bytes : Content)
    (split : asked = part ++ rest)
    (carries : Carries (Holds (lost ++ [block])) (stream ++ part) next)
    (before : stream.length < (block + 1) * blockBytes)
    (length_eq : (stream ++ part).length = (block + 1) * blockBytes)
    (bytes_eq : bytes.toList = (stream ++ part).drop (block * blockBytes))
    (calls_eq : next.device.calls =
      calls ++ stored ++ [⟨.write (block * blockSectors) bytes, some error⟩])
    (succeeded : ∀ record ∈ stored, record.IsStored) :
    Ends Holds lost stream asked calls restate (.error (restate error) next)
  | declined {next : Writer (Watched Device)} {error : IoError} (block : Nat)
    (stored : List CallRecord) (part rest : List UInt8) (bytes : Content)
    (split : asked = part ++ rest)
    (carries : Carries (Holds lost) (stream ++ part) next)
    (length_eq : (stream ++ part).length = block * blockBytes)
    (whole : bytes.size % blockBytes = 0) (positive : 0 < bytes.size)
    (begins : bytes.toList <+: rest)
    (calls_eq : next.device.calls =
      calls ++ stored ++ [⟨.write (block * blockSectors) bytes, some error⟩])
    (succeeded : ∀ record ∈ stored, record.IsStored) :
    Ends Holds lost stream asked calls restate (.error (restate error) next)

variable {Holds : List Nat → List UInt8 → Watched Device → Prop} {lost : List Nat}
  {stream asked : List UInt8} {calls : List CallRecord} {writer : Writer (Watched Device)}
  {Cause Restated : Type} {restate : IoError → Cause}

namespace Ends

omit [BlockDevice Device]

/-- Bytes that were taken before belong to what was asked. -/
theorem prepend {more : List UInt8} {stored : List CallRecord}
    {result : EStateM.Result Cause (Writer (Watched Device)) Unit}
    (ends : Ends Holds lost (stream ++ asked) more (calls ++ stored) restate result)
    (succeeded : ∀ record ∈ stored, record.IsStored) :
    Ends Holds lost stream (asked ++ more) calls restate result := by
  have all : ∀ later : List CallRecord, (∀ record ∈ later, record.IsStored) →
      ∀ record ∈ stored ++ later, record.IsStored := fun later others record member =>
    (List.mem_append.1 member).elim (succeeded record) (others record)
  cases ends with
  | taken later carries calls_eq others =>
    refine .taken (stored ++ later) ?_ ?_ (all _ others)
    · rw [← List.append_assoc]
      exact carries
    · rw [calls_eq, List.append_assoc]
  | lost block later part rest bytes split carries before length_eq bytes_eq calls_eq others =>
    rw [List.append_assoc] at carries length_eq bytes_eq
    refine .lost block (stored ++ later) (asked ++ part) rest bytes ?_ carries ?_ length_eq
      bytes_eq ?_ (all _ others)
    · rw [split, List.append_assoc]
    · rw [List.length_append] at before
      exact Nat.lt_of_le_of_lt (Nat.le_add_right _ _) before
    · rw [calls_eq, List.append_assoc calls]
  | declined block later part rest bytes split carries length_eq whole positive begins calls_eq
      others =>
    rw [List.append_assoc] at carries length_eq
    refine .declined block (stored ++ later) (asked ++ part) rest bytes ?_ carries length_eq
      whole positive begins ?_ (all _ others)
    · rw [split, List.append_assoc]
    · rw [calls_eq, List.append_assoc calls]

/-- One action after another. After a failure the second is not run. -/
theorem bind {first : EStateM Cause (Writer (Watched Device)) Unit}
    {second : Unit → EStateM Cause (Writer (Watched Device)) Unit} {more : List UInt8}
    (ends : Ends Holds lost stream asked calls restate (first writer))
    (continues : ∀ next, Carries (Holds lost) (stream ++ asked) next →
      Ends Holds lost (stream ++ asked) more next.device.calls restate (second () next)) :
    Ends Holds lost stream (asked ++ more) calls restate ((first >>= second) writer) := by
  generalize outcome : first writer = result at ends
  cases ends with
  | taken stored carries calls_eq succeeded =>
    rw [Action.bind_of_ok outcome]
    have onward := continues _ carries
    rw [calls_eq] at onward
    exact onward.prepend succeeded
  | lost block stored part rest bytes split carries before length_eq bytes_eq calls_eq succeeded =>
    rw [Action.bind_of_error outcome]
    exact .lost block stored part (rest ++ more) bytes (by rw [split, List.append_assoc]) carries
      before length_eq bytes_eq calls_eq succeeded
  | declined block stored part rest bytes split carries length_eq whole positive begins calls_eq
      succeeded =>
    rw [Action.bind_of_error outcome]
    exact .declined block stored part (rest ++ more) bytes (by rw [split, List.append_assoc])
      carries length_eq whole positive (begins.trans (List.prefix_append _ _)) calls_eq succeeded

/-- Restating errors changes nothing else. -/
theorem adaptExcept {action : EStateM Cause (Writer (Watched Device)) Unit}
    (ends : Ends Holds lost stream asked calls restate (action writer))
    (again : Cause → Restated) :
    Ends Holds lost stream asked calls (again ∘ restate)
      (action.adaptExcept again writer) := by
  generalize outcome : action writer = result at ends
  cases ends with
  | taken stored carries calls_eq succeeded =>
    rw [Action.adaptExcept_of_ok outcome]
    exact .taken stored carries calls_eq succeeded
  | lost block stored part rest bytes split carries before length_eq bytes_eq calls_eq succeeded =>
    rw [Action.adaptExcept_of_error outcome]
    exact .lost block stored part rest bytes split carries before length_eq bytes_eq calls_eq
      succeeded
  | declined block stored part rest bytes split carries length_eq whole positive begins calls_eq
      succeeded =>
    rw [Action.adaptExcept_of_error outcome]
    exact .declined block stored part rest bytes split carries length_eq whole positive begins
      calls_eq succeeded

end Ends

omit [BlockDevice Device] in
/-- Nothing has to be written. -/
theorem ends_of_carries (carries : Carries (Holds lost) (stream ++ asked) writer) :
    Ends Holds lost stream asked writer.device.calls restate (.ok () writer) :=
  .taken [] carries (List.append_nil _).symm fun _ member => absurd member List.not_mem_nil

/-! ### Putting blocks -/

theorem isStored_of_mem_singleton {start : Nat} {bytes : Content} :
    ∀ record ∈ [(⟨.write start bytes, none⟩ : CallRecord)], record.IsStored := by
  intro record member
  obtain rfl := List.mem_singleton.1 member
  exact ⟨start, bytes, rfl⟩

/-- Bytes that complete the current block. If it cannot be written, it is lost. -/
theorem complete_ends (withstands : Withstands Holds) (carries : Carries (Holds lost) stream writer)
    {bytes : Content} (full : blockBytes ≤ writer.pending.size + bytes.size) :
    Ends Holds lost stream (bytes.take (blockBytes - writer.pending.size)).toList
      writer.device.calls id
      (putBlocks (writer.pending ++ bytes.take (blockBytes - writer.pending.size)) 1 1 writer) := by
  have unfinished := writer.unfinished
  have sum := carries.blocks_add_pending
  generalize part_eq : bytes.take (blockBytes - writer.pending.size) = part
  have size_eq : (writer.pending ++ part).size = blockBytes := by
    rw [Content.size_append, ← part_eq, Content.size_take,
      Nat.min_eq_left (Nat.sub_le_iff_le_add'.2 full)]
    exact Nat.add_sub_cancel' (Nat.le_of_lt unfinished)
  have block_eq : stream.take (writer.blocks * blockBytes) ++ (writer.pending ++ part).toList =
      stream ++ part.toList := by
    rw [Content.toList_append, ← List.append_assoc, carries.take_append_pending]
  have length_eq : (stream ++ part.toList).length = (writer.blocks + 1) * blockBytes := by
    rw [List.length_append, Content.length_toList, ← sum, Nat.add_assoc, ← Content.size_append,
      size_eq, Nat.succ_mul]
  unfold putBlocks
  cases outcome : BlockDevice.write (writer.blocks * blockSectors) (writer.pending ++ part)
      writer.device with
  | ok value next =>
    have holds := withstands.stored _ _ _ _ _ _ carries.holds carries.length_take
      (size_eq.symm ▸ blockBytes_pos) outcome
    rw [block_eq] at holds
    exact .taken _ (carries_atBlock holds length_eq) (Watched.noting_eq_ok_iff.1 outcome).2
      isStored_of_mem_singleton
  | error error next =>
    have holds := withstands.lost _ _ _ _ _ _ _ carries.holds carries.length_take size_eq outcome
    rw [block_eq] at holds
    refine .lost writer.blocks [] part.toList [] (writer.pending ++ part) (List.append_nil _).symm
      (carries_atBlock holds length_eq) ?_ length_eq ?_ ?_ ?_
    · rw [← sum, Nat.succ_mul]
      exact Nat.add_lt_add_left unfinished _
    · rw [← block_eq, List.drop_left' carries.length_take]
    · rw [List.append_nil]
      exact (Watched.noting_eq_error_iff.1 outcome).2
    · intro record member
      cases member

/-- Whole blocks at once, when no bytes are pending. If they cannot be written, they are
declined. -/
theorem putWhole_ends (withstands : Withstands Holds)
    (carries : Carries (Holds lost) stream writer) {bytes : Content}
    (whole : bytes.size % blockBytes = 0) (aligned : bytes.size = 0 ∨ writer.pending.size = 0) :
    Ends Holds lost stream bytes.toList writer.device.calls id (putWhole bytes writer) := by
  unfold putWhole
  split
  · rename_i empty
    have nothing : bytes.toList = [] := by
      rw [← List.length_eq_zero_iff, Content.length_toList, empty]
    rw [nothing]
    refine ends_of_carries ?_
    rw [List.append_nil]
    exact carries
  · rename_i some
    have sum := carries.blocks_add_pending
    have all := carries.holds_all (aligned.resolve_left some)
    rw [aligned.resolve_left some, Nat.add_zero] at sum
    unfold putBlocks
    cases outcome : BlockDevice.write (writer.blocks * blockSectors) bytes writer.device with
    | ok value next =>
      have holds := withstands.stored _ _ _ _ _ _ all sum.symm (Nat.pos_of_ne_zero some) outcome
      refine .taken _ (carries_atBlock holds ?_) (Watched.noting_eq_ok_iff.1 outcome).2
        isStored_of_mem_singleton
      rw [List.length_append, Content.length_toList, ← sum, Nat.add_mul,
        Nat.div_mul_cancel (Nat.dvd_of_mod_eq_zero whole)]
    | error error next =>
      have holds := withstands.declined _ _ _ _ _ _ _ all outcome
      have same : stream ++ [] = stream := List.append_nil stream
      refine .declined writer.blocks [] [] bytes.toList bytes rfl ?_ ?_ whole
        (Nat.pos_of_ne_zero some) (List.prefix_refl _) ?_ ?_
      · rw [same]
        exact carries_atBlock holds sum.symm
      · rw [same, sum]
      · rw [List.append_nil]
        exact (Watched.noting_eq_error_iff.1 outcome).2
      · intro record member
        cases member

/-! ### Appending -/

/-- Bytes through the current block. -/
theorem push_ends (withstands : Withstands Holds) (carries : Carries (Holds lost) stream writer)
    (bytes : Content) :
    Ends Holds lost stream bytes.toList writer.device.calls id (push bytes writer) := by
  -- Each block that is completed leaves fewer bytes.
  induction size_eq : bytes.size using Nat.strongRecOn generalizing bytes stream writer with
  | ind size inductionHypothesis =>
    subst size_eq
    by_cases inside : writer.pending.size + bytes.size < blockBytes
    · rw [push, dif_pos inside]
      exact ends_of_carries (carries.append bytes _)
    · have full := Nat.le_of_not_lt inside
      have unfinished := writer.unfinished
      have pieces : bytes.toList = (bytes.take (blockBytes - writer.pending.size)).toList ++
          (bytes.drop (blockBytes - writer.pending.size)).toList := by
        rw [Content.toList_take, Content.toList_drop, List.take_append_drop]
      rw [push_of_le full, pieces]
      refine Ends.bind (complete_ends withstands carries full) fun next carried => ?_
      exact inductionHypothesis (bytes.drop (blockBytes - writer.pending.size)).size
        (by rw [Content.size_drop]; omega) carried _ rfl

/-- Zeros up to an offset. -/
theorem fill_ends (withstands : Withstands Holds) (carries : Carries (Holds lost) stream writer)
    {offset : Nat} (after : stream.length ≤ offset) :
    Ends Holds lost stream (List.replicate (offset - stream.length) 0) writer.device.calls id
      (fill offset writer) := by
  have ends := push_ends withstands carries (.zeros (offset - stream.length))
  rw [Content.toList_zeros] at ends
  rw [fill, carries.position_eq, if_neg (Nat.not_lt_of_le after)]
  exact ends

/-- Bytes, whichever way they take. -/
theorem append_ends (withstands : Withstands Holds) (carries : Carries (Holds lost) stream writer)
    (bytes : Content) :
    Ends Holds lost stream bytes.toList writer.device.calls id (append bytes writer) := by
  have boundary := add_leadAt_mod stream.length
  have lead_eq : (if writer.pending.size = 0 then 0 else blockBytes - writer.pending.size) =
      leadAt stream.length := by
    rw [leadAt, carries.pending_size_eq]
  rw [append, Action.bind_of_ok (show (get : Writing (Watched Device) _) writer =
    .ok writer writer from rfl)]
  simp only [lead_eq]
  generalize leadAt stream.length = lead at boundary ⊢
  have pieces : bytes.toList = (bytes.take lead).toList ++ (bytes.drop lead).toList := by
    rw [Content.toList_take, Content.toList_drop, List.take_append_drop]
  rw [pieces]
  refine Ends.bind (push_ends withstands carries _) fun next carried => ?_
  -- What remains is nothing, or it begins where a block begins.
  have aligned : (bytes.drop lead).size = 0 ∨ next.pending.size = 0 := by
    by_cases short : bytes.size ≤ lead
    · exact .inl (by rw [Content.size_drop, Nat.sub_eq_zero_of_le short])
    · refine .inr ?_
      rw [carried.pending_size_eq, List.length_append, Content.length_toList, Content.size_take,
        Nat.min_eq_left (Nat.le_of_not_le short), boundary]
  generalize bytes.drop lead = rest at aligned ⊢
  have whole : (rest.size - rest.size % blockBytes) % blockBytes = 0 :=
    Nat.sub_mod_eq_zero_of_mod_eq (by rw [Nat.mod_mod])
  have wholeSize : (rest.take (rest.size - rest.size % blockBytes)).size =
      rest.size - rest.size % blockBytes := by
    rw [Content.size_take, Nat.min_eq_left (Nat.sub_le _ _)]
  have parts : rest.toList = (rest.take (rest.size - rest.size % blockBytes)).toList ++
      (rest.drop (rest.size - rest.size % blockBytes)).toList := by
    rw [Content.toList_take, Content.toList_drop, List.take_append_drop]
  rw [parts]
  refine Ends.bind (putWhole_ends withstands carried (wholeSize.symm ▸ whole) ?_)
    fun last through => push_ends withstands through _
  exact aligned.imp_left fun nothing => by rw [wholeSize, nothing, Nat.zero_sub]

/-- A stretch behind the stream, with zeros before it. -/
theorem appendAt_ends (withstands : Withstands Holds) (carries : Carries (Holds lost) stream writer)
    {offset : Nat} (after : stream.length ≤ offset) (bytes : Content) :
    Ends Holds lost stream (List.replicate (offset - stream.length) 0 ++ bytes.toList)
      writer.device.calls id (appendAt offset bytes writer) :=
  Ends.bind (fill_ends withstands carries after) fun _ filled => append_ends withstands filled bytes

/-- The stretches of a volume in rising order. -/
theorem placeAll_ends (withstands : Withstands Holds)
    (carries : Carries (Holds lost) stream writer) {placements : List Placement}
    (rising : Stream.Rising stream.length (placements.map Placement.field))
    (laid_eq : Stream.laidAll stream (placements.map Placement.field) = stream ++ asked) :
    Ends Holds lost stream asked writer.device.calls Failure.refused
      (placeAll (placements.map .ok) writer) := by
  induction placements generalizing stream asked writer with
  | nil =>
    refine ends_of_carries ?_
    rw [← laid_eq]
    exact carries
  | cons placement rest inductionHypothesis =>
    have after : stream.length ≤ placement.offset := rising.1
    have others := rising.2
    have placed := (appendAt_ends withstands carries after placement.bytes).adaptExcept
      (Failure.refused : IoError → Failure IoError)
    rw [← Stream.length_laid after, Stream.laid, List.append_assoc] at others
    rw [List.map_cons, Stream.laidAll_cons, Stream.laid, List.append_assoc] at laid_eq
    obtain ⟨more, onward⟩ := Stream.prefix_laidAll (stream ++
      (List.replicate (placement.offset - stream.length) 0 ++ placement.bytes.toList))
      (rest.map Placement.field)
    obtain rfl : _ = asked := List.append_cancel_left
      ((List.append_assoc _ _ _).symm.trans (onward.trans laid_eq))
    exact Ends.bind placed fun next carried => inductionHypothesis carried others onward.symm

end CardFormat.Writer
