/-
This file follows the calls of a format. A format does not notice that its device is watched.
What is known of its calls is that a card is written by writes alone: either all of them
succeed, and what the device holds is the card, or one fails, and it is the last; the format
ends with its error.
-/

import CardFormat.Proofs.Format.Torn
import CardFormat.Proofs.Writer.Failures
import CardFormat.Proofs.Writer.Watched

namespace CardFormat

open Formatting

variable {Device : Type} [BlockDevice Device]

/-! ### A format does not notice that it is watched -/

theorem ofResult_showsAs {First Second Value : Type} (view : First → Second)
    (result : Except FormatError Value) :
    ShowsAs view (ofResult result) (ofResult result) := by
  intro state
  cases result with
  | ok value => rfl
  | error error => rfl

theorem ofAttempt_showsAs {First Second Value : Type} (view : First → Second)
    (attempt : Attempt FormatError Value) :
    ShowsAs view (ofAttempt attempt) (ofAttempt attempt) := by
  intro state
  cases attempt with
  | ok value => rfl
  | error failure => rfl

theorem giveSize_showsAs (requested : Option Nat) :
    ShowsAs Watched.device (giveSize requested) (giveSize requested : Formatting Device Unit) := by
  intro watched
  cases requested with
  | none => rfl
  | some requested =>
    by_cases new : BlockDevice.sectorCount watched.device = 0
    · rw [giveSize_of_new new,
        giveSize_of_new (show BlockDevice.sectorCount watched = 0 from new)]
      exact (Watched.noting_showsAs _ _).adaptExcept _ watched
    · rw [giveSize_of_sized new,
        giveSize_of_sized (show BlockDevice.sectorCount watched ≠ 0 from new)]
      rfl

theorem eraseIfAsked_showsAs (mode : Option EraseMode) :
    ShowsAs Watched.device (eraseIfAsked mode) (eraseIfAsked mode : Formatting Device _) := by
  intro watched
  cases mode with
  | none => rfl
  | some mode =>
    have shows := Watched.noting_showsAs (.discard (mode == .secure))
      (BlockDevice.discard (mode == .secure) : DeviceAction Device Unit)
    cases outcome : (BlockDevice.discard (mode == .secure) : DeviceAction Device Unit)
        watched.device with
    | ok value next =>
      obtain ⟨final, result, rfl⟩ := shows.eq_ok outcome
      rw [eraseIfAsked_of_ok outcome, eraseIfAsked_of_ok result]
      rfl
    | error error next =>
      obtain ⟨final, result, rfl⟩ := shows.eq_error outcome
      by_cases unsupported : error.kind = .unsupported
      · rw [eraseIfAsked_of_unsupported outcome unsupported,
          eraseIfAsked_of_unsupported result unsupported]
        rfl
      · rw [eraseIfAsked_of_error outcome unsupported, eraseIfAsked_of_error result unsupported]
        rfl

theorem writeCard_showsAs (preparation : Preparation) (sources : Sources) :
    ShowsAs Writer.unwatched (writeCard preparation sources)
      (writeCard preparation sources : Formatting (Writer Device) _) := by
  refine ShowsAs.bind (ofResult_showsAs _ _) fun signature => ?_
  refine ShowsAs.bind (ofAttempt_showsAs _ _) fun table => ?_
  refine ShowsAs.bind ((Writer.appendAt_showsAs _ _).adaptExcept _) fun _ => ?_
  refine ShowsAs.bind (ShowsAs.adaptExcept ?_ _) fun _ => ?_
  · intro writer
    unfold writeVolume
    cases volumePlacements preparation.params preparation.label sources.volumeSerial with
    | error failure => rfl
    | ok placements => exact Writer.placeAll_showsAs placements writer
  · exact ShowsAs.bind (Writer.flush_showsAs.adaptExcept _) fun length => ShowsAs.pure _

omit [BlockDevice Device] in
theorem throughWriter_showsAs {Value : Type} {action : Formatting (Writer (Watched Device)) Value}
    {other : Formatting (Writer Device) Value} (shows : ShowsAs Writer.unwatched action other) :
    ShowsAs Watched.device (throughWriter action) (throughWriter other) := by
  intro watched
  have seen := shows (Writer.start watched)
  rw [show (Writer.start watched).unwatched = Writer.start watched.device from rfl] at seen
  unfold throughWriter
  rw [← seen]
  cases action (Writer.start watched) with
  | ok value writer => rfl
  | error failure writer => rfl

/-- A format does with a watched device what it does with the device. -/
theorem format_showsAs (options : FormatOptions) (sources : Sources) :
    ShowsAs Watched.device (format options sources)
      (format options sources : Formatting Device FormatReport) := by
  intro watched
  cases mode : options.dryRun with
  | true =>
    rw [format_dryRun_eq mode, format_dryRun_eq mode]
    rw [show BlockDevice.sectorCount watched = BlockDevice.sectorCount watched.device from rfl]
    cases chosenCapacity options.capacity (BlockDevice.sectorCount watched.device) with
    | error error => rfl
    | ok sectors =>
      simp only
      cases prepare options sectors with
      | error failure => rfl
      | ok preparation => rfl
  | false =>
    rw [format_eq mode, format_eq mode]
    rw [show BlockDevice.sectorCount watched = BlockDevice.sectorCount watched.device from rfl]
    cases chosenCapacity options.capacity (BlockDevice.sectorCount watched.device) with
    | error error => rfl
    | ok sectors =>
      simp only
      refine ShowsAs.bind (giveSize_showsAs _) (fun _ => ?_) watched
      refine ShowsAs.bind (ofAttempt_showsAs _ _) fun preparation => ?_
      refine ShowsAs.bind (eraseIfAsked_showsAs _) fun erased => ?_
      refine ShowsAs.bind (throughWriter_showsAs (writeCard_showsAs _ _)) fun written => ?_
      exact ShowsAs.bind ((Watched.noting_showsAs _ _).adaptExcept _) fun _ => ShowsAs.pure _

/-! ### The calls of a card -/

/-- How it ends when a card is written. All writes have succeeded, and the device holds the
card; or the last write has failed, and the filesystem with it. -/
inductive CardEnds (Holds : List Nat → List UInt8 → Watched Device → Prop)
    (calls : List CallRecord) (signature : UInt32) (card : List UInt8) :
    EStateM.Result (Failure FormatError) (Watched Device) (UInt32 × Nat) → Prop
  | written {next : Watched Device} (stored : List CallRecord) (holds : Holds [] card next)
    (calls_eq : next.calls = calls ++ stored) (succeeded : ∀ record ∈ stored, record.IsStored) :
    CardEnds Holds calls signature card (.ok (signature, card.length) next)
  | failed {next : Watched Device} {error : IoError} (stored : List CallRecord) (start : Nat)
    (bytes : Content)
    (calls_eq : next.calls = calls ++ stored ++ [⟨.write start bytes, some error⟩])
    (succeeded : ∀ record ∈ stored, record.IsStored) :
    CardEnds Holds calls signature card (.error (.refused (.filesystemFailed error)) next)

section

variable {Holds : List Nat → List UInt8 → Watched Device → Prop} {watched : Watched Device}
  {preparation : Preparation} {signature serial : UInt32} {table : PartitionTable}
  {placements : List Placement} {fields : List Field}

/-- The end of a card that ends with a sector. The rest of it takes one write, if there is a
rest. -/
theorem flush_card {card : List UInt8} {writer : Writer (Watched Device)}
    (withstands : Writer.Withstands Holds) (carries : Writer.Carries (Holds []) card writer)
    (whole : card.length % sectorBytes = 0) :
    (∃ next stored, Writer.flush writer = .ok card.length next ∧ Holds [] card next.device ∧
      next.device.calls = writer.device.calls ++ stored ∧ ∀ record ∈ stored, record.IsStored) ∨
    ∃ error next start bytes, Writer.flush writer = .error error next ∧
      next.device.calls = writer.device.calls ++ [⟨.write start bytes, some error⟩] := by
  have padding : Writer.sectorPadding writer.pending.size = 0 := by
    rw [← Writer.sectorPadding_blocks_add writer.blocks, carries.blocks_add_pending]
    exact Writer.sectorPadding_of_whole whole
  rw [← carries.position_eq]
  rcases writer.flush_cases with ⟨nothing, ends⟩ |
    ⟨bytes, bytes_eq, some, ⟨device, result, ends⟩ | ⟨error, device, result, ends⟩⟩
  · exact .inl ⟨writer, [], ends, carries.holds_all nothing, (List.append_nil _).symm,
      fun _ member => absurd member List.not_mem_nil⟩
  · have holds := withstands.stored _ _ _ _ _ _ carries.holds carries.length_take some result
    rw [bytes_eq, padding, List.replicate_zero, List.append_nil, carries.take_append_pending]
      at holds
    exact .inl ⟨_, _, ends, holds, (Watched.noting_eq_ok_iff.1 result).2,
      Writer.isStored_of_mem_singleton⟩
  · exact .inr ⟨error, _, _, bytes, ends, (Watched.noting_eq_error_iff.1 result).2⟩

theorem writeCard_ends (withstands : Writer.Withstands Holds) (holds : Holds [] [] watched)
    (tableResult : PartitionTable.ofParams preparation.params signature false = .ok table)
    (volume : VolumeOf preparation.params preparation.label serial placements fields) :
    CardEnds Holds watched.calls signature (Stream.laidAll table.encode fields)
      (throughWriter (writeCard preparation ⟨.ok signature, serial⟩) watched) := by
  -- The partition table goes to no device that does not take a write.
  have takes : Writer.Takes (fun _ written (next : Watched Device) =>
      Holds [] written next ∧ next.calls = watched.calls) 0 blockBytes sectorBytes :=
    ⟨fun _ _ _ _ _ _ impossible => absurd impossible (Nat.not_lt_zero _)⟩
  obtain ⟨first, ⟨position_eq, pending_eq, unwritten, same⟩, begins⟩ := writeCard_begins takes
    (Nat.le_refl _) ⟨holds, rfl⟩ tableResult volume.placed (Nat.le_refl _)
  have rising := volume.rising
  rw [← table.length_encode] at rising
  have laid_eq := volume.joins.laid_eq _ rising
  obtain ⟨asked, split⟩ := Stream.prefix_laidAll table.encode fields
  have placed := (Writer.placeAll_ends withstands ⟨position_eq, pending_eq, unwritten⟩
    (volume.joins.rising _ rising) (laid_eq.trans split.symm)).adaptExcept
      (restateFailure FormatError.filesystemFailed)
  rw [same] at placed
  rw [throughWriter, begins]
  generalize outcome : (Writer.placeAll (placements.map .ok)).adaptExcept
    (restateFailure FormatError.filesystemFailed) first = result at placed
  cases placed with
  | @lost next error block stored part rest bytes _ _ _ _ _ calls_eq succeeded =>
    rw [Action.bind_of_error outcome]
    exact .failed stored _ bytes calls_eq succeeded
  | @declined next error block stored part rest bytes _ _ _ _ _ _ calls_eq succeeded =>
    rw [Action.bind_of_error outcome]
    exact .failed stored _ bytes calls_eq succeeded
  | @taken next stored carries calls_eq succeeded =>
    rw [split] at carries
    rw [Action.bind_of_ok outcome]
    rcases flush_card withstands carries (by rw [volume.length_laidAll, volume.whole]) with
      ⟨last, more, flushed, held, more_eq, others⟩ | ⟨error, last, start, bytes, flushed, more_eq⟩
    · rw [Action.bind_of_ok (ofAction_of_ok flushed _)]
      refine .written (stored ++ more) held ?_ fun record member =>
        (List.mem_append.1 member).elim (succeeded record) (others record)
      rw [more_eq, calls_eq, List.append_assoc]
    · rw [Action.bind_of_error (ofAction_of_error flushed _)]
      refine .failed stored start bytes ?_ succeeded
      rw [more_eq, calls_eq]

end

end CardFormat
