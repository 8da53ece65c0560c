/-
This file proves that a writer carries a stream of bytes to a device. What has gone to the
device is always the whole blocks of the stream so far, and what is pending is the rest.
Appending keeps it so, whichever way the bytes take: through the current block, completing
it, or as whole blocks at once. It is assumed only that the device takes a number of writes,
front to back. If they are enough, everything succeeds; a device that stops before is left
with whole blocks of the stream, and the failure of its write is what the action ends with.
What this means for a kind of device is proved for that kind.
-/

import CardFormat.Proofs.Attempt
import CardFormat.Proofs.Bytes.Stream
import CardFormat.Proofs.Writer.Count

namespace CardFormat

/-- A placement as a field of the device. -/
def Placement.field (placement : Placement) : Field :=
  ⟨placement.offset, placement.bytes.toList⟩

theorem Placement.length_field (placement : Placement) :
    placement.field.bytes.length = placement.bytes.size :=
  Content.length_toList _

namespace Writer

variable {Device : Type}

@[simp] theorem position_atBlock (device : Device) (blocks : Nat) :
    (atBlock device blocks).position = blocks * blockBytes := by
  rw [position, atBlock, Content.size_empty, Nat.add_zero]

/-- The writer carries the stream: its whole blocks are on the device, the rest is pending.
What a device holds is said for all the bytes that were written to it. -/
structure Carries (Holds : List UInt8 → Device → Prop) (stream : List UInt8)
    (writer : Writer Device) : Prop where
  position_eq : writer.position = stream.length
  pending_eq : writer.pending.toList = stream.drop (writer.blocks * blockBytes)
  holds : Holds (stream.take (writer.blocks * blockBytes)) writer.device

section

variable {Holds : List UInt8 → Device → Prop} {stream : List UInt8} {writer : Writer Device}

theorem carries_start {device : Device} (holds : Holds [] device) :
    Carries Holds [] (start device) where
  position_eq := by
    rw [start, position, Content.size_empty, Nat.zero_mul, List.length_nil]
  pending_eq := by
    rw [List.drop_nil]
    rfl
  holds := by
    rw [List.take_nil]
    exact holds

/-- At the start of a block everything is on the device. -/
theorem carries_atBlock {device : Device} {blocks : Nat} (holds : Holds stream device)
    (length_eq : stream.length = blocks * blockBytes) :
    Carries Holds stream (atBlock device blocks) where
  position_eq := by rw [position_atBlock, length_eq]
  pending_eq := by
    rw [atBlock, Content.toList_empty, ← length_eq, List.drop_length]
  holds := by
    rw [atBlock, ← length_eq, List.take_length]
    exact holds

namespace Carries

theorem blocks_le (carries : Carries Holds stream writer) :
    writer.blocks * blockBytes ≤ stream.length := by
  rw [← carries.position_eq, position]
  exact Nat.le_add_right _ _

theorem length_take (carries : Carries Holds stream writer) :
    (stream.take (writer.blocks * blockBytes)).length = writer.blocks * blockBytes := by
  rw [List.length_take, Nat.min_eq_left carries.blocks_le]

/-- The blocks on the device and the pending bytes are the stream. -/
theorem take_append_pending (carries : Carries Holds stream writer) :
    stream.take (writer.blocks * blockBytes) ++ writer.pending.toList = stream := by
  rw [carries.pending_eq, List.take_append_drop]

theorem blocks_add_pending (carries : Carries Holds stream writer) :
    writer.blocks * blockBytes + writer.pending.size = stream.length :=
  carries.position_eq

/-- How far the stream is into its block. -/
theorem pending_size_eq (carries : Carries Holds stream writer) :
    writer.pending.size = stream.length % blockBytes := by
  rw [← carries.blocks_add_pending, Nat.mul_add_mod', Nat.mod_eq_of_lt writer.unfinished]

theorem blocks_eq (carries : Carries Holds stream writer) :
    writer.blocks = stream.length / blockBytes := by
  rw [← carries.blocks_add_pending, Nat.mul_comm, Nat.mul_add_div blockBytes_pos,
    Nat.div_eq_of_lt writer.unfinished, Nat.add_zero]

/-- Between blocks all of the stream is on the device. -/
theorem holds_all (carries : Carries Holds stream writer) (nothing : writer.pending.size = 0) :
    Holds stream writer.device := by
  have sum := carries.blocks_add_pending
  rw [nothing, Nat.add_zero] at sum
  have holds := carries.holds
  rw [List.take_of_length_le (Nat.le_of_eq sum.symm)] at holds
  exact holds

/-- Bytes that stay in the current block. -/
theorem append (carries : Carries Holds stream writer) (bytes : Content)
    (fits : (writer.pending ++ bytes).size < blockBytes) :
    Carries Holds (stream ++ bytes.toList)
      ⟨writer.device, writer.blocks, writer.pending ++ bytes, fits⟩ where
  position_eq := by
    rw [position, Content.size_append, ← Nat.add_assoc, carries.blocks_add_pending,
      List.length_append, Content.length_toList]
  pending_eq := by
    rw [Content.toList_append, carries.pending_eq,
      List.drop_append_of_le_length carries.blocks_le]
  holds := by
    rw [List.take_append_of_le_length carries.blocks_le]
    exact carries.holds

end Carries

end

variable [BlockDevice Device]

/-! ### Devices that take a number of writes -/

/-- The device takes up to so many writes and up to so many bytes, front to back and from
block to block, and no write is wider than allowed. What it holds is said for the number of
writes and for all the bytes. -/
structure Takes (Holds : Nat → List UInt8 → Device → Prop) (most widest limit : Nat) : Prop where
  write_eq_ok : ∀ (count : Nat) (written : List UInt8) (device : Device) (blocks : Nat)
    (bytes : Content), Holds count written device → count < most →
    written.length = blocks * blockBytes → 0 < bytes.size → bytes.size ≤ widest →
    bytes.size % sectorBytes = 0 → written.length + bytes.size ≤ limit →
    ∃ next, BlockDevice.write (blocks * blockSectors) bytes device = .ok () next ∧
      Holds (count + 1) (written ++ bytes.toList) next

/-- After so many writes the device refuses any other, and stays as it is. -/
def Stops (Holds : Nat → List UInt8 → Device → Prop) (most : Nat) : Prop :=
  ∀ (written : List UInt8) (device : Device) (blocks : Nat) (bytes : Content),
    Holds most written device → written.length = blocks * blockBytes →
    ∃ error, BlockDevice.write (blocks * blockSectors) bytes device = .error error device

/-- The device has stopped with whole blocks of the stream on it, and more was to come. -/
def Torn (Holds : Nat → List UInt8 → Device → Prop) (most : Nat) (stream : List UInt8)
    (device : Device) : Prop :=
  ∃ blocks, blocks * blockBytes < stream.length ∧
    Holds most (stream.take (blocks * blockBytes)) device

/-- What comes of an action that takes the stream on and that takes the writes to a number:
with a device that takes so many the writer carries the stream, and one that stops before is
torn. -/
structure Reaches (Holds : Nat → List UInt8 → Device → Prop) (most count : Nat)
    (stream : List UInt8) {Cause : Type} (restate : IoError → Cause)
    (result : EStateM.Result Cause (Writer Device) Unit) : Prop where
  of_le : count ≤ most → ∃ next, result = .ok () next ∧ Carries (Holds count) stream next
  of_lt : most < count → Stops Holds most → ∃ error next, result = .error (restate error) next ∧
    Torn Holds most stream next.device

variable {Holds : Nat → List UInt8 → Device → Prop} {most widest limit count : Nat}
  {stream : List UInt8} {writer : Writer Device} {Cause : Type} {restate : IoError → Cause}

omit [BlockDevice Device] in
/-- A torn device is torn whatever more was to come. -/
theorem Torn.of_prefix {device : Device} {later : List UInt8}
    (torn : Torn Holds most stream device) (begins : stream <+: later) :
    Torn Holds most later device := by
  obtain ⟨blocks, inside, holds⟩ := torn
  obtain ⟨more, rfl⟩ := begins
  refine ⟨blocks, ?_, ?_⟩
  · rw [List.length_append]
    exact Nat.lt_add_right _ inside
  · rw [List.take_append_of_le_length (Nat.le_of_lt inside)]
    exact holds

namespace Reaches

theorem of_carries (carries : Carries (Holds count) stream writer) (within : count ≤ most) :
    Reaches Holds most count stream restate (.ok () writer) where
  of_le _ := ⟨writer, rfl, carries⟩
  of_lt few := absurd few (Nat.not_lt_of_le within)

/-- One action after another. If the first leaves a torn device, the second is not run. -/
theorem bind {first : EStateM Cause (Writer Device) Unit}
    {second : Unit → EStateM Cause (Writer Device) Unit} {middle : Nat} {later : List UInt8}
    (reached : Reaches Holds most middle stream restate (first writer)) (le : middle ≤ count)
    (begins : stream <+: later)
    (continues : ∀ next, middle ≤ most → Carries (Holds middle) stream next →
      Reaches Holds most count later restate (second () next)) :
    Reaches Holds most count later restate ((first >>= second) writer) := by
  by_cases within : middle ≤ most
  · obtain ⟨next, result, carries⟩ := reached.of_le within
    rw [Action.bind_of_ok result]
    exact continues next within carries
  · have few := Nat.lt_of_not_le within
    refine ⟨fun enough => absurd (Nat.le_trans le enough) within, fun _ stops => ?_⟩
    obtain ⟨error, next, result, torn⟩ := reached.of_lt few stops
    exact ⟨error, next, Action.bind_of_error result second, torn.of_prefix begins⟩

/-- Restating errors changes nothing else. -/
theorem adaptExcept {Restated : Type} {action : EStateM Cause (Writer Device) Unit}
    (reached : Reaches Holds most count stream restate (action writer))
    (again : Cause → Restated) :
    Reaches Holds most count stream (again ∘ restate) (action.adaptExcept again writer) where
  of_le enough := by
    obtain ⟨next, result, carries⟩ := reached.of_le enough
    exact ⟨next, Action.adaptExcept_of_ok result again, carries⟩
  of_lt few stops := by
    obtain ⟨error, next, result, torn⟩ := reached.of_lt few stops
    exact ⟨error, next, Action.adaptExcept_of_error result again, torn⟩

end Reaches

/-! ### Putting blocks -/

/-- Whole blocks behind those on the device. -/
theorem putBlocks_reaches (takes : Takes Holds most widest limit)
    (carries : Carries (Holds count) stream writer) (within : count ≤ most) {bytes : Content}
    {advance : Nat} (whole : bytes.size = advance * blockBytes) (some : 0 < bytes.size)
    (narrow : bytes.size ≤ widest) (fits : writer.blocks * blockBytes + bytes.size ≤ limit)
    (advanceOnFailure : Nat) :
    Reaches Holds most (count + 1) (stream.take (writer.blocks * blockBytes) ++ bytes.toList) id
      (putBlocks bytes advance advanceOnFailure writer) where
  of_le enough := by
    have multiple : bytes.size % sectorBytes = 0 := by
      rw [whole, blockBytes_eq, ← Nat.mul_assoc, Nat.mul_mod_left]
    have length_eq : (stream.take (writer.blocks * blockBytes) ++ bytes.toList).length =
        (writer.blocks + advance) * blockBytes := by
      rw [List.length_append, carries.length_take, Content.length_toList, whole, Nat.add_mul]
    rw [← carries.length_take] at fits
    obtain ⟨device, result, holds⟩ := takes.write_eq_ok _ _ _ _ bytes carries.holds enough
      carries.length_take some narrow multiple fits
    refine ⟨atBlock device (writer.blocks + advance), ?_, carries_atBlock holds length_eq⟩
    rw [putBlocks, result]
  of_lt few stops := by
    obtain rfl : count = most := Nat.le_antisymm within (Nat.le_of_lt_succ few)
    obtain ⟨error, result⟩ := stops _ _ _ bytes carries.holds carries.length_take
    refine ⟨error, atBlock writer.device (writer.blocks + advanceOnFailure), ?_, writer.blocks,
      ?_, ?_⟩
    · rw [putBlocks, result]
      rfl
    · rw [List.length_append, carries.length_take, Content.length_toList]
      exact Nat.lt_add_of_pos_right some
    · rw [List.take_left' carries.length_take]
      exact carries.holds

/-! ### Appending -/

/-- Bytes that complete the current block. -/
theorem complete_reaches (takes : Takes Holds most widest limit) (block : blockBytes ≤ widest)
    (carries : Carries (Holds count) stream writer) (within : count ≤ most) {bytes : Content}
    (full : blockBytes ≤ writer.pending.size + bytes.size)
    (fits : stream.length + bytes.size ≤ limit) :
    Reaches Holds most (count + 1)
      (stream ++ (bytes.take (blockBytes - writer.pending.size)).toList) id
      (putBlocks (writer.pending ++ bytes.take (blockBytes - writer.pending.size)) 1 1
        writer) := by
  have unfinished := writer.unfinished
  have sum := carries.blocks_add_pending
  have size_eq : (writer.pending ++ bytes.take (blockBytes - writer.pending.size)).size =
      blockBytes := by
    rw [Content.size_append, Content.size_take, Nat.min_eq_left (Nat.sub_le_iff_le_add'.2 full)]
    exact Nat.add_sub_cancel' (Nat.le_of_lt unfinished)
  have reached := putBlocks_reaches takes carries within
    (show _ = 1 * blockBytes by rw [size_eq, Nat.one_mul]) (size_eq.symm ▸ blockBytes_pos)
    (size_eq.symm ▸ block) (by rw [size_eq]; omega) 1
  rw [Content.toList_append, ← List.append_assoc, carries.take_append_pending] at reached
  exact reached

/-- Bytes that are enough for the current block complete it first. -/
theorem push_of_le {bytes : Content} (full : blockBytes ≤ writer.pending.size + bytes.size) :
    push bytes writer =
      (putBlocks (writer.pending ++ bytes.take (blockBytes - writer.pending.size)) 1 1 >>=
        fun _ => push (bytes.drop (blockBytes - writer.pending.size))) writer := by
  rw [push, dif_neg (Nat.not_lt_of_le full)]
  simp only [bind, EStateM.bind]
  cases putBlocks (writer.pending ++ bytes.take (blockBytes - writer.pending.size)) 1 1 writer with
  | ok value next => rfl
  | error error next => rfl

/-- Bytes through the current block. -/
theorem push_reaches (takes : Takes Holds most widest limit) (block : blockBytes ≤ widest)
    (carries : Carries (Holds count) stream writer) (within : count ≤ most) {bytes : Content}
    (fits : stream.length + bytes.size ≤ limit) :
    Reaches Holds most (count + blocksCompleted stream.length bytes.size)
      (stream ++ bytes.toList) id (push bytes writer) := by
  -- Each block that is completed leaves fewer bytes.
  induction size_eq : bytes.size using Nat.strongRecOn
    generalizing bytes stream writer count with
  | ind size inductionHypothesis =>
    subst size_eq
    have pending := carries.pending_size_eq
    by_cases inside : writer.pending.size + bytes.size < blockBytes
    · rw [push, dif_pos inside, blocksCompleted_of_lt (by rw [← pending]; exact inside)]
      exact Reaches.of_carries (carries.append bytes _) within
    · have full := Nat.le_of_not_lt inside
      have unfinished := writer.unfinished
      have count_eq := blocksCompleted_of_le (show blockBytes ≤ stream.length % blockBytes + _ by
        rw [← pending]
        exact full)
      rw [← pending] at count_eq
      have pieces : bytes.toList = (bytes.take (blockBytes - writer.pending.size)).toList ++
          (bytes.drop (blockBytes - writer.pending.size)).toList := by
        rw [Content.toList_take, Content.toList_drop, List.take_append_drop]
      have length_eq : (stream ++ (bytes.take (blockBytes - writer.pending.size)).toList).length =
          stream.length + (blockBytes - writer.pending.size) := by
        rw [List.length_append, Content.length_toList, Content.size_take,
          Nat.min_eq_left (Nat.sub_le_iff_le_add'.2 full)]
      rw [push_of_le full, count_eq, pieces, ← List.append_assoc, ← Nat.add_assoc]
      refine Reaches.bind (complete_reaches takes block carries within full fits)
        (Nat.le_add_right _ _) (List.prefix_append _ _) ?_
      intro next enough carried
      have rest := inductionHypothesis (bytes.drop (blockBytes - writer.pending.size)).size
        (by rw [Content.size_drop]; omega) carried enough
        (by rw [length_eq, Content.size_drop]; omega) rfl
      rw [length_eq, Content.size_drop] at rest
      exact rest

/-- Zeros up to an offset. -/
theorem fill_reaches (takes : Takes Holds most widest limit) (block : blockBytes ≤ widest)
    (carries : Carries (Holds count) stream writer) (within : count ≤ most) {offset : Nat}
    (after : stream.length ≤ offset) (fits : offset ≤ limit) :
    Reaches Holds most (count + blocksCompleted stream.length (offset - stream.length))
      (stream ++ List.replicate (offset - stream.length) 0) id (fill offset writer) := by
  have sum := Nat.add_sub_cancel' after
  have reached := push_reaches takes block carries within
    (show stream.length + (Content.zeros (offset - stream.length)).size ≤ limit by
      rw [Content.size_zeros, sum]
      exact fits)
  rw [Content.toList_zeros, Content.size_zeros] at reached
  rw [fill, carries.position_eq, if_neg (Nat.not_lt_of_le after)]
  exact reached

/-- Whole blocks at once, when no bytes are pending. -/
theorem putWhole_reaches (takes : Takes Holds most widest limit)
    (carries : Carries (Holds count) stream writer) (within : count ≤ most) {bytes : Content}
    (whole : bytes.size % blockBytes = 0) (aligned : bytes.size = 0 ∨ writer.pending.size = 0)
    (narrow : bytes.size ≤ widest) (fits : stream.length + bytes.size ≤ limit) :
    Reaches Holds most (count + if bytes.size = 0 then 0 else 1) (stream ++ bytes.toList) id
      (putWhole bytes writer) := by
  unfold putWhole
  split
  · rename_i empty
    have nothing : bytes.toList = [] := by
      rw [← List.length_eq_zero_iff, Content.length_toList, empty]
    rw [nothing, List.append_nil]
    exact Reaches.of_carries carries within
  · rename_i some
    have sum := carries.blocks_add_pending
    rw [aligned.resolve_left some, Nat.add_zero] at sum
    have reached := putBlocks_reaches takes carries within
      (Nat.div_mul_cancel (Nat.dvd_of_mod_eq_zero whole)).symm (Nat.pos_of_ne_zero some) narrow
      (by rw [sum]; exact fits) 0
    rw [List.take_of_length_le (Nat.le_of_eq sum.symm)] at reached
    exact reached

/-- Bytes from the start of a block on: first the whole blocks at once, then what is left. -/
theorem putWhole_push_reaches (takes : Takes Holds most widest limit) (block : blockBytes ≤ widest)
    (carries : Carries (Holds count) stream writer) (within : count ≤ most) {bytes : Content}
    (aligned : bytes.size = 0 ∨ stream.length % blockBytes = 0) (narrow : bytes.size ≤ widest)
    (fits : stream.length + bytes.size ≤ limit) :
    Reaches Holds most (count + if bytes.size < blockBytes then 0 else 1)
      (stream ++ bytes.toList) id
      ((putWhole (bytes.take (bytes.size - bytes.size % blockBytes)) >>= fun _ =>
        push (bytes.drop (bytes.size - bytes.size % blockBytes))) writer) := by
  have few := Nat.mod_le bytes.size blockBytes
  have sum := Nat.sub_add_cancel few
  have wholeMod : (bytes.size - bytes.size % blockBytes) % blockBytes = 0 :=
    Nat.sub_mod_eq_zero_of_mod_eq (by rw [Nat.mod_mod])
  have whole_iff : bytes.size - bytes.size % blockBytes = 0 ↔ bytes.size < blockBytes := by
    unfold blockBytes
    omega
  have wholeSize : (bytes.take (bytes.size - bytes.size % blockBytes)).size =
      bytes.size - bytes.size % blockBytes := by
    rw [Content.size_take, Nat.min_eq_left (Nat.sub_le _ _)]
  have restSize : (bytes.drop (bytes.size - bytes.size % blockBytes)).size =
      bytes.size % blockBytes := by
    rw [Content.size_drop, Nat.sub_sub_self few]
  have pieces : bytes.toList = (bytes.take (bytes.size - bytes.size % blockBytes)).toList ++
      (bytes.drop (bytes.size - bytes.size % blockBytes)).toList := by
    rw [Content.toList_take, Content.toList_drop, List.take_append_drop]
  generalize bytes.size - bytes.size % blockBytes = whole at *
  have first := putWhole_reaches takes carries within (wholeSize.symm ▸ wholeMod)
    (by rw [wholeSize, carries.pending_size_eq]; omega) (by omega) (by omega)
  simp only [wholeSize, whole_iff] at first
  rw [pieces, ← List.append_assoc]
  refine Reaches.bind first (Nat.le_refl _) (List.prefix_append _ _) ?_
  intro next enough carried
  have length_eq : (stream ++ (bytes.take whole).toList).length = stream.length + whole := by
    rw [List.length_append, Content.length_toList, wholeSize]
  have last := push_reaches takes block carried enough
    (show _ + (bytes.drop whole).size ≤ limit by omega)
  -- What is left over completes no block.
  have nothing : blocksCompleted (stream ++ (bytes.take whole).toList).length
      (bytes.drop whole).size = 0 := by
    rcases aligned with empty | boundary
    · rw [restSize, empty, Nat.zero_mod, blocksCompleted_zero]
    · refine blocksCompleted_of_lt ?_
      rw [length_eq, restSize, Nat.add_mod, boundary, wholeMod, Nat.add_zero, Nat.zero_mod,
        Nat.zero_add]
      exact Nat.mod_lt _ blockBytes_pos
  rw [nothing] at last
  exact last

/-- Bytes, whichever way they take. -/
theorem append_reaches (takes : Takes Holds most widest limit) (block : blockBytes ≤ widest)
    (carries : Carries (Holds count) stream writer) (within : count ≤ most) {bytes : Content}
    (narrow : bytes.size ≤ widest) (fits : stream.length + bytes.size ≤ limit) :
    Reaches Holds most (count + appendWrites stream.length bytes.size)
      (stream ++ bytes.toList) id (append bytes writer) := by
  have boundary := add_leadAt_mod stream.length
  have lead_eq : (if writer.pending.size = 0 then 0 else blockBytes - writer.pending.size) =
      leadAt stream.length := by
    rw [leadAt, carries.pending_size_eq]
  rw [append, Action.bind_of_ok (show (get : Writing Device _) writer = .ok writer writer from rfl)]
  simp only [lead_eq, appendWrites]
  generalize leadAt stream.length = lead at boundary ⊢
  have remaining : (bytes.drop lead).size = bytes.size - lead := Content.size_drop _ _
  have pieces : bytes.toList = (bytes.take lead).toList ++ (bytes.drop lead).toList := by
    rw [Content.toList_take, Content.toList_drop, List.take_append_drop]
  have length_eq : (stream ++ (bytes.take lead).toList).length =
      stream.length + min lead bytes.size := by
    rw [List.length_append, Content.length_toList, Content.size_take]
  have first := push_reaches takes block carries within
    (show stream.length + (bytes.take lead).size ≤ limit by rw [Content.size_take]; omega)
  rw [Content.size_take] at first
  rw [pieces, ← List.append_assoc, ← Nat.add_assoc, ← remaining]
  refine Reaches.bind first (Nat.le_add_right _ _) (List.prefix_append _ _) ?_
  intro next enough carried
  refine putWhole_push_reaches takes block carried enough ?_ (by omega) (by omega)
  -- Bytes are left only if the first of them have reached the start of a block.
  by_cases short : bytes.size ≤ lead
  · exact .inl (by omega)
  · refine .inr ?_
    rw [length_eq, Nat.min_eq_left (by omega), boundary]

/-! ### Placing -/

/-- A stretch behind the stream, with zeros before it. -/
theorem appendAt_reaches (takes : Takes Holds most widest limit) (block : blockBytes ≤ widest)
    (carries : Carries (Holds count) stream writer) (within : count ≤ most) {offset : Nat}
    {bytes : Content} (after : stream.length ≤ offset) (narrow : bytes.size ≤ widest)
    (fits : offset + bytes.size ≤ limit) :
    Reaches Holds most (count + appendAtWrites stream.length offset bytes.size)
      (Stream.laid stream ⟨offset, bytes.toList⟩) id (appendAt offset bytes writer) := by
  have filledLength : (stream ++ List.replicate (offset - stream.length) 0).length = offset := by
    rw [List.length_append, List.length_replicate, Nat.add_sub_cancel' after]
  rw [appendAtWrites, ← Nat.add_assoc, Stream.laid, appendAt]
  refine Reaches.bind (fill_reaches takes block carries within after (by omega))
    (Nat.le_add_right _ _) (List.prefix_append _ _) ?_
  intro next enough filled
  have reached := append_reaches takes block filled enough narrow
    (by rw [filledLength]; exact fits)
  rw [filledLength] at reached
  exact reached

/-- The stretches of a volume in rising order. -/
theorem placeAll_reaches (takes : Takes Holds most widest limit) (block : blockBytes ≤ widest)
    (carries : Carries (Holds count) stream writer) (within : count ≤ most)
    {placements : List Placement}
    (rising : Stream.Rising stream.length (placements.map Placement.field))
    (narrow : ∀ placement ∈ placements, placement.bytes.size ≤ widest)
    (fits : Stream.stop stream.length (placements.map Placement.field) ≤ limit) :
    Reaches Holds most (count + placementWrites stream.length placements)
      (Stream.laidAll stream (placements.map Placement.field)) Failure.refused
      (placeAll (placements.map .ok) writer) := by
  induction placements generalizing stream writer count with
  | nil => exact Reaches.of_carries carries within
  | cons placement rest inductionHypothesis =>
    have after : stream.length ≤ placement.offset := rising.1
    have others := rising.2
    have length_eq : (Stream.laid stream ⟨placement.offset, placement.bytes.toList⟩).length =
        placement.offset + placement.bytes.size := by
      rw [Stream.length_laid after, Content.length_toList]
    rw [placement.length_field] at others
    rw [List.map_cons, Stream.stop, placement.length_field] at fits
    rw [List.forall_mem_cons] at narrow
    have placed := (appendAt_reaches takes block carries within after narrow.1
      (Nat.le_trans (Stream.le_stop others) fits)).adaptExcept
        (Failure.refused : IoError → Failure IoError)
    rw [placementWrites, ← Nat.add_assoc]
    refine Reaches.bind placed (Nat.le_add_right _ _) (Stream.prefix_laidAll _ _) ?_
    intro next enough carried
    have reached := inductionHypothesis carried enough (by rw [length_eq]; exact others) narrow.2
      (by rw [length_eq]; exact fits)
    rw [length_eq] at reached
    exact reached

/-- Short stretches take a write for each block that they complete. -/
theorem placementWrites_of_le {position : Nat} {placements : List Placement}
    (rising : Stream.Rising position (placements.map Placement.field))
    (narrow : ∀ placement ∈ placements, placement.bytes.size ≤ blockBytes) :
    position / blockBytes + placementWrites position placements =
      Stream.stop position (placements.map Placement.field) / blockBytes := by
  induction placements generalizing position with
  | nil => rfl
  | cons placement rest inductionHypothesis =>
    have after : position ≤ placement.offset := rising.1
    have others := rising.2
    rw [placement.length_field] at others
    rw [List.forall_mem_cons] at narrow
    have further : position / blockBytes ≤ (placement.offset + placement.bytes.size) / blockBytes :=
      Nat.div_le_div_right (Nat.le_add_right_of_le after)
    rw [List.map_cons, Stream.stop, placement.length_field, placementWrites,
      appendAtWrites_of_le after narrow.1, ← Nat.add_assoc, Nat.add_sub_cancel' further]
    exact inductionHypothesis others narrow.2

/-! ### The end of the stream -/

/-- The zeros from a position to the end of its sector. -/
def sectorPadding (position : Nat) : Nat :=
  (position + sectorBytes - 1) / sectorBytes * sectorBytes - position

theorem sectorPadding_of_whole {position : Nat} (whole : position % sectorBytes = 0) :
    sectorPadding position = 0 := by
  unfold sectorPadding sectorBytes at *
  omega

/-- Whole blocks in front do not change the padding. -/
theorem sectorPadding_blocks_add (blocks position : Nat) :
    sectorPadding (blocks * blockBytes + position) = sectorPadding position := by
  have whole : blocks * blockBytes = blocks * 8192 * 512 := by
    rw [blockBytes_eq, ← Nat.mul_assoc]
    rfl
  unfold sectorPadding sectorBytes
  rw [whole]
  omega

theorem sectors_eq (position : Nat) :
    (position + sectorBytes - 1) / sectorBytes * sectorBytes =
      position + sectorPadding position := by
  unfold sectorPadding sectorBytes
  omega

/-- What a flush writes: the bytes and zeros up to the end of the sector. -/
theorem toList_resize_sectors (bytes : Content) :
    (bytes.resize ((bytes.size + sectorBytes - 1) / sectorBytes * sectorBytes)).toList =
      bytes.toList ++ List.replicate (sectorPadding bytes.size) 0 := by
  rw [sectors_eq, Content.toList_resize, Nat.add_sub_cancel_left, List.take_of_length_le]
  rw [Content.length_toList]
  exact Nat.le_add_right _ _

/-- A flush has nothing to do between blocks; otherwise it makes one write, and ends as this
does. -/
theorem flush_cases (writer : Writer Device) :
    writer.pending.size = 0 ∧ flush writer = .ok writer.position writer ∨
    ∃ bytes, bytes.toList = writer.pending.toList ++
        List.replicate (sectorPadding writer.pending.size) 0 ∧ 0 < bytes.size ∧
      ((∃ next, BlockDevice.write (writer.blocks * blockSectors) bytes writer.device =
            .ok () next ∧
          flush writer = .ok writer.position { writer with device := next }) ∨
        ∃ error next, BlockDevice.write (writer.blocks * blockSectors) bytes writer.device =
            .error error next ∧
          flush writer = .error error { writer with device := next }) := by
  unfold flush
  by_cases nothing : writer.pending.size = 0
  · rw [if_pos nothing]
    exact .inl ⟨nothing, rfl⟩
  · rw [if_neg nothing]
    refine .inr ⟨_, toList_resize_sectors writer.pending, ?_, ?_⟩
    · rw [Content.size_resize, sectors_eq]
      exact Nat.add_pos_left (Nat.pos_of_ne_zero nothing) _
    · cases outcome : BlockDevice.write (writer.blocks * blockSectors) (writer.pending.resize
        ((writer.pending.size + sectorBytes - 1) / sectorBytes * sectorBytes)) writer.device with
      | ok value next => exact .inl ⟨next, rfl, by simp only [outcome]⟩
      | error error next => exact .inr ⟨error, next, rfl, by simp only [outcome]⟩

/-- The pending bytes end on the device, padded to a sector. -/
theorem flush_eq_ok (takes : Takes Holds most widest limit) (block : blockBytes ≤ widest)
    (carries : Carries (Holds count) stream writer)
    (enough : count + flushWrites stream.length ≤ most)
    (fits : stream.length + sectorPadding stream.length ≤ limit) :
    ∃ next, flush writer = .ok stream.length next ∧
      Holds (count + flushWrites stream.length)
        (stream ++ List.replicate (sectorPadding stream.length) 0) next.device := by
  have sum := carries.blocks_add_pending
  have unfinished := writer.unfinished
  have padding : sectorPadding stream.length = sectorPadding writer.pending.size := by
    rw [← sum, sectorPadding_blocks_add]
  rw [flushWrites, ← carries.pending_size_eq] at enough ⊢
  rw [flush, carries.position_eq]
  by_cases nothing : writer.pending.size = 0
  · rw [if_pos nothing, if_pos nothing, padding, nothing, show sectorPadding 0 = 0 from rfl,
      List.replicate_zero, List.append_nil]
    exact ⟨writer, rfl, carries.holds_all nothing⟩
  · have narrow : writer.pending.size + sectorPadding writer.pending.size ≤ blockBytes := by
      unfold sectorPadding sectorBytes
      unfold blockBytes at unfinished ⊢
      omega
    rw [if_neg nothing] at enough
    obtain ⟨device, result, holds⟩ := takes.write_eq_ok _ _ _ _ (writer.pending.resize
        ((writer.pending.size + sectorBytes - 1) / sectorBytes * sectorBytes)) carries.holds enough
      carries.length_take (by rw [Content.size_resize, sectors_eq]; omega)
      (by rw [Content.size_resize, sectors_eq]; exact Nat.le_trans narrow block)
      (by rw [Content.size_resize, Nat.mul_mod_left])
      (by rw [Content.size_resize, sectors_eq, carries.length_take]; omega)
    rw [toList_resize_sectors, ← List.append_assoc, carries.take_append_pending, ← padding]
      at holds
    rw [if_neg nothing, if_neg nothing]
    simp only [result]
    exact ⟨_, rfl, holds⟩

/-- If the device stops before the end of the stream, only that is missing. -/
theorem flush_eq_error (stops : Stops Holds most) (carries : Carries (Holds count) stream writer)
    (within : count ≤ most) (few : most < count + flushWrites stream.length) :
    ∃ error next, flush writer = .error error next ∧ Torn Holds most stream next.device := by
  have sum := carries.blocks_add_pending
  rw [flushWrites, ← carries.pending_size_eq] at few
  by_cases nothing : writer.pending.size = 0
  · rw [if_pos nothing] at few
    exact absurd few (Nat.not_lt_of_le within)
  · rw [if_neg nothing] at few
    obtain rfl : count = most := Nat.le_antisymm within (Nat.le_of_lt_succ few)
    obtain ⟨error, result⟩ := stops _ _ _ (writer.pending.resize
      ((writer.pending.size + sectorBytes - 1) / sectorBytes * sectorBytes)) carries.holds
      carries.length_take
    refine ⟨error, writer, ?_, writer.blocks, ?_, carries.holds⟩
    · rw [flush, if_neg nothing]
      simp only [result]
    · rw [← sum]
      exact Nat.lt_add_of_pos_right (Nat.pos_of_ne_zero nothing)

end Writer

end CardFormat
