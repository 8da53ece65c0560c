/-
This file proves that a writer does not notice that its device is watched. Whatever it is
asked, what becomes of the device, how far the stream gets and which errors there are is the
same as without the witness.
-/

import CardFormat.Proofs.Device.Watched
import CardFormat.Proofs.Writer.Requests

namespace CardFormat.Writer

variable {Device : Type} [BlockDevice Device]

/-- The writer on the device alone. -/
def unwatched (writer : Writer (Watched Device)) : Writer Device :=
  ⟨writer.device.device, writer.blocks, writer.pending, writer.unfinished⟩

theorem putBlocks_showsAs (bytes : Content) (advance advanceOnFailure : Nat) :
    ShowsAs unwatched (putBlocks bytes advance advanceOnFailure)
      (putBlocks bytes advance advanceOnFailure : Writing Device Unit) := by
  intro writer
  have shows := Watched.noting_showsAs (.write (writer.blocks * blockSectors) bytes)
    (BlockDevice.write (writer.blocks * blockSectors) bytes : DeviceAction Device Unit)
  unfold putBlocks
  cases outcome : (BlockDevice.write (writer.blocks * blockSectors) bytes :
      DeviceAction Device Unit) writer.device.device with
  | ok value next =>
    obtain ⟨final, result, rfl⟩ := shows.eq_ok outcome
    simp only [unwatched, outcome, show BlockDevice.write _ _ writer.device = _ from result]
    rfl
  | error error next =>
    obtain ⟨final, result, rfl⟩ := shows.eq_error outcome
    simp only [unwatched, outcome, show BlockDevice.write _ _ writer.device = _ from result]
    rfl

theorem push_showsAs (bytes : Content) :
    ShowsAs unwatched (push bytes) (push bytes : Writing Device Unit) := by
  intro writer
  induction size_eq : bytes.size using Nat.strongRecOn generalizing bytes writer with
  | ind size inductionHypothesis =>
    subst size_eq
    by_cases inside : writer.pending.size + bytes.size < blockBytes
    · rw [push, dif_pos inside, push, dif_pos (show (unwatched writer).pending.size + _ < _ from
        inside)]
      rfl
    · have full := Nat.le_of_not_lt inside
      have unfinished := writer.unfinished
      have puts := @putBlocks_showsAs Device _
        (writer.pending ++ bytes.take (blockBytes - writer.pending.size)) 1 1 writer
      rw [push_of_le full, push_of_le (show blockBytes ≤ (unwatched writer).pending.size + _ from
        full)]
      cases outcome : putBlocks (writer.pending ++ bytes.take (blockBytes - writer.pending.size))
          1 1 writer with
      | ok value next =>
        rw [outcome] at puts
        refine (congrArg (viewResult unwatched) (Action.bind_of_ok outcome _)).trans ?_
        refine Eq.trans ?_ (Action.bind_of_ok puts.symm _).symm
        exact inductionHypothesis _ (by rw [Content.size_drop]; omega) _ next rfl
      | error error next =>
        rw [outcome] at puts
        refine (congrArg (viewResult unwatched) (Action.bind_of_error outcome _)).trans ?_
        exact (Action.bind_of_error puts.symm _).symm

theorem fill_showsAs (offset : Nat) :
    ShowsAs unwatched (fill offset) (fill offset : Writing Device Unit) := by
  intro writer
  unfold fill
  rw [show (unwatched writer).position = writer.position from rfl]
  split
  · rfl
  · exact push_showsAs _ writer

theorem putWhole_showsAs (bytes : Content) :
    ShowsAs unwatched (putWhole bytes) (putWhole bytes : Writing Device Unit) := by
  unfold putWhole
  split
  · exact ShowsAs.pure ()
  · exact putBlocks_showsAs _ _ _

theorem append_showsAs (bytes : Content) :
    ShowsAs unwatched (append bytes) (append bytes : Writing Device Unit) := by
  intro writer
  rw [append, append,
    Action.bind_of_ok (show (get : Writing (Watched Device) _) writer = .ok writer writer from rfl),
    Action.bind_of_ok (show (get : Writing Device _) (unwatched writer) =
      .ok (unwatched writer) (unwatched writer) from rfl)]
  exact ShowsAs.bind (push_showsAs _)
    (fun _ => ShowsAs.bind (putWhole_showsAs _) fun _ => push_showsAs _) writer

theorem appendAt_showsAs (offset : Nat) (bytes : Content) :
    ShowsAs unwatched (appendAt offset bytes) (appendAt offset bytes : Writing Device Unit) :=
  ShowsAs.bind (fill_showsAs offset) fun _ => append_showsAs bytes

theorem placeAll_showsAs (placements : Placements) :
    ShowsAs unwatched (placeAll placements)
      (placeAll placements : EStateM (Failure IoError) (Writer Device) Unit) := by
  induction placements with
  | nil => exact ShowsAs.pure ()
  | cons placement rest inductionHypothesis =>
    refine ShowsAs.bind ?_ fun _ => inductionHypothesis
    cases placement with
    | error fault => exact fun _ => rfl
    | ok placement => exact (appendAt_showsAs _ _).adaptExcept _

theorem flush_showsAs : ShowsAs unwatched flush (flush : Writing Device Nat) := by
  intro writer
  unfold flush
  rw [show (unwatched writer).position = writer.position from rfl]
  by_cases nothing : writer.pending.size = 0
  · rw [if_pos nothing, if_pos (show (unwatched writer).pending.size = 0 from nothing)]
    rfl
  · rw [if_neg nothing, if_neg (show (unwatched writer).pending.size ≠ 0 from nothing)]
    generalize bytes_eq : writer.pending.resize
      ((writer.pending.size + sectorBytes - 1) / sectorBytes * sectorBytes) = bytes
    have shows := Watched.noting_showsAs (.write (writer.blocks * blockSectors) bytes)
      (BlockDevice.write (writer.blocks * blockSectors) bytes : DeviceAction Device Unit)
    cases outcome : (BlockDevice.write (writer.blocks * blockSectors) bytes :
        DeviceAction Device Unit) writer.device.device with
    | ok value next =>
      obtain ⟨final, result, rfl⟩ := shows.eq_ok outcome
      simp only [unwatched, bytes_eq, outcome,
        show BlockDevice.write _ _ writer.device = _ from result]
      rfl
    | error error next =>
      obtain ⟨final, result, rfl⟩ := shows.eq_error outcome
      simp only [unwatched, bytes_eq, outcome,
        show BlockDevice.write _ _ writer.device = _ from result]
      rfl

/-! ### Requests -/

theorem Request.perform_showsAs (request : Request) :
    ShowsAs unwatched request.perform (request.perform : Writing Device Unit) := by
  cases request with
  | fill offset => exact fill_showsAs offset
  | append bytes => exact append_showsAs bytes
  | appendAt offset bytes => exact appendAt_showsAs offset bytes

theorem Request.unwatched_after (writer : Writer (Watched Device)) (request : Request) :
    (request.after writer).unwatched = request.after writer.unwatched := by
  have shows := @perform_showsAs Device _ request writer
  unfold Request.after
  rw [← shows]
  cases request.perform writer with
  | ok value next => rfl
  | error error next => rfl

/-- After any requests, refused or not, the writer is where it is without the witness. -/
theorem unwatched_foldl_after (writer : Writer (Watched Device)) (requests : List Request) :
    (requests.foldl Request.after writer).unwatched =
      requests.foldl Request.after writer.unwatched := by
  induction requests generalizing writer with
  | nil => rfl
  | cons request rest inductionHypothesis =>
    rw [List.foldl_cons, inductionHypothesis, request.unwatched_after, List.foldl_cons]

end CardFormat.Writer
