/-
This file compares the size that a file device remembers with the size of its file. A file that
was opened for writing keeps the two in step through all calls but one kind: nothing at all,
written behind the end of the file. It leaves the file as it is and moves the remembered size,
so that sectors are counted which cannot be read. In step, every counted sector can be read.
-/

import CardFormat.Proofs.Device.Calls
import CardFormat.Proofs.Device.File

namespace CardFormat.FileDevice

/-- The file is open for writing, and no longer than files are. -/
structure Opened (device : FileDevice) : Prop where
  access_eq : device.access = .writing
  closed_eq : device.closed = false
  size_lt : device.content.size < fileOffsetLimit

/-- The device remembers the size of the file, without the part of a sector at its end. -/
def InStep (device : FileDevice) : Prop :=
  device.sectors = device.content.size / sectorBytes

/-- The call writes nothing, at a place behind the end of the file that files can have. -/
def Stray (device : FileDevice) : DeviceCall → Prop
  | .write start bytes => bytes.size = 0 ∧ device.content.size / sectorBytes < start ∧
      start * sectorBytes < fileOffsetLimit
  | _ => False

instance (device : FileDevice) : (call : DeviceCall) → Decidable (device.Stray call)
  | .write start bytes => inferInstanceAs (Decidable (bytes.size = 0 ∧
      device.content.size / sectorBytes < start ∧ start * sectorBytes < fileOffsetLimit))
  | .discard _ => inferInstanceAs (Decidable False)
  | .truncate _ => inferInstanceAs (Decidable False)
  | .close => inferInstanceAs (Decidable False)

/-! ### What a call does -/

/-- The device that a call leads to. -/
def reached (device : FileDevice) : DeviceCall → Attempt IoError FileDevice
  | .write start bytes => device.writeAt start bytes
  | .discard _ => Attempt.refuse .imageWithoutDiscard
  | .truncate sectors => device.resized sectors
  | .close => .ok { device with closed := true }

theorem perform_eq (device : FileDevice) (call : DeviceCall) :
    call.perform device = goTo (fun device => device.reached call) device := by
  cases call with
  | write start bytes => rfl
  | discard secure => rfl
  | truncate sectors => rfl
  | close => rfl

variable {device next : FileDevice} {call : DeviceCall}

theorem after_of_ok (result : device.reached call = .ok next) : call.after device = next := by
  rw [DeviceCall.after, perform_eq, goTo_eq_ok result]

theorem after_of_error {failure : Failure IoError}
    (result : device.reached call = .error failure) : call.after device = device := by
  rw [DeviceCall.after, perform_eq, goTo_eq_error result]

/-! ### What a call leaves in step -/

theorem Opened.after (opened : Opened device) (open_still : call ≠ .close) :
    Opened (call.after device) := by
  cases result : device.reached call with
  | error failure =>
    rw [after_of_error result]
    exact opened
  | ok next =>
    rw [after_of_ok result]
    cases call with
    | write start bytes =>
      obtain ⟨-, below, rfl⟩ := (writeAt_eq_ok_iff opened.access_eq opened.closed_eq).1 result
      refine ⟨opened.access_eq, opened.closed_eq, ?_⟩
      by_cases nothing : bytes.size = 0
      · rw [if_pos nothing]
        exact opened.size_lt
      · rw [if_neg nothing, Content.size_overwrite]
        exact Nat.max_lt.2 ⟨opened.size_lt, below⟩
    | discard secure => cases result
    | truncate sectors =>
      obtain ⟨below, rfl⟩ := (resized_eq_ok_iff opened.access_eq opened.closed_eq).1 result
      refine ⟨opened.access_eq, opened.closed_eq, ?_⟩
      rw [Content.size_resize]
      exact below
    | close => exact absurd rfl open_still

/-- Bytes laid over the file move the two sizes together, and nothing moves only one of them. -/
theorem inStep_written (inStep : device.InStep) {start : Nat} {bytes : Content}
    (whole : bytes.size % sectorBytes = 0)
    (below : start * sectorBytes + bytes.size < fileOffsetLimit) :
    InStep { device with
        content :=
          if bytes.size = 0 then device.content
          else device.content.overwrite (start * sectorBytes) bytes
        sectors := max device.sectors (start + bytes.size / sectorBytes) } ↔
      ¬ device.Stray (.write start bytes) := by
  simp only [InStep, Stray] at inStep ⊢
  by_cases nothing : bytes.size = 0
  · rw [nothing, Nat.add_zero] at below
    simp only [nothing, if_true, Nat.zero_div, Nat.add_zero, inStep, below, and_true, true_and,
      Nat.not_lt]
    exact ⟨fun kept => kept ▸ Nat.le_max_right _ _, Nat.max_eq_left⟩
  · simp only [nothing, if_false, false_and, not_false_eq_true, iff_true, inStep,
      Content.size_overwrite]
    unfold sectorBytes at whole ⊢
    omega

/-- A call leaves the two sizes in step exactly if it is no stray one. -/
theorem inStep_after_iff (opened : Opened device) (inStep : device.InStep) :
    (call.after device).InStep ↔ ¬ device.Stray call := by
  cases result : device.reached call with
  | error failure =>
    rw [after_of_error result]
    refine iff_of_true inStep ?_
    cases call with
    | write start bytes =>
      rintro ⟨nothing, -, below⟩
      have succeeds : device.writeAt start bytes = .ok _ :=
        (writeAt_eq_ok_iff opened.access_eq opened.closed_eq).2
          ⟨by rw [nothing, Nat.zero_mod], by rw [nothing, Nat.add_zero]; exact below, rfl⟩
      cases result.symm.trans succeeds
    | discard secure => exact id
    | truncate sectors => exact id
    | close => exact id
  | ok next =>
    rw [after_of_ok result]
    cases call with
    | write start bytes =>
      obtain ⟨whole, below, rfl⟩ := (writeAt_eq_ok_iff opened.access_eq opened.closed_eq).1 result
      exact inStep_written inStep whole below
    | discard secure => cases result
    | truncate sectors =>
      obtain ⟨-, rfl⟩ := (resized_eq_ok_iff opened.access_eq opened.closed_eq).1 result
      refine iff_of_true ?_ id
      show sectors = (device.content.resize (sectors * sectorBytes)).size / sectorBytes
      rw [Content.size_resize, Nat.mul_div_cancel _ (by decide)]
    | close =>
      cases result
      exact iff_of_true inStep id

/-! ### After any calls -/

theorem Opened.foldl_after (opened : Opened device) {calls : List DeviceCall}
    (open_still : .close ∉ calls) : Opened (calls.foldl DeviceCall.after device) := by
  induction calls generalizing device with
  | nil => exact opened
  | cons call rest inductionHypothesis =>
    rw [List.mem_cons, not_or] at open_still
    exact inductionHypothesis (opened.after fun closes => open_still.1 closes.symm) open_still.2

/-- The sizes are in step after each of the calls exactly if none of them was a stray one. -/
theorem inStep_foldl_after_iff (opened : Opened device) (inStep : device.InStep)
    {calls : List DeviceCall} (open_still : .close ∉ calls) :
    (∀ count, ((calls.take count).foldl DeviceCall.after device).InStep) ↔
      ∀ index, (inside : index < calls.length) →
        ¬ ((calls.take index).foldl DeviceCall.after device).Stray calls[index] := by
  have still (count : Nat) : Opened ((calls.take count).foldl DeviceCall.after device) :=
    opened.foldl_after fun member => open_still (List.mem_of_mem_take member)
  have next {index : Nat} (inside : index < calls.length) :
      (calls.take (index + 1)).foldl DeviceCall.after device =
        calls[index].after ((calls.take index).foldl DeviceCall.after device) := by
    rw [← List.take_append_getElem inside, List.foldl_append, List.foldl_cons, List.foldl_nil]
  constructor
  · intro always index inside
    have stays := always (index + 1)
    rw [next inside] at stays
    exact (inStep_after_iff (still index) (always index)).1 stays
  · intro none_stray count
    induction count with
    | zero => exact inStep
    | succ index inductionHypothesis =>
      rcases Nat.lt_or_ge index calls.length with inside | beyond
      · rw [next inside]
        exact (inStep_after_iff (still index) inductionHypothesis).2 (none_stray index inside)
      · rw [List.take_of_length_le (Nat.le_succ_of_le beyond), ← List.take_of_length_le beyond]
        exact inductionHypothesis

/-- In step with its file, the device reads every sector that it counts. -/
theorem read_of_inStep (opened : Opened device) (inStep : device.InStep) {sector : Nat}
    (counted : sector < device.sectors) :
    device.readAt sector sectorBytes =
      .ok (device.content.slice (sector * sectorBytes) sectorBytes) := by
  have inside : sector * sectorBytes + sectorBytes ≤ device.content.size := by
    rw [inStep] at counted
    rw [← Nat.succ_mul]
    exact (Nat.le_div_iff_mul_le (by decide)).1 counted
  have below : sector * sectorBytes + sectorBytes < fileOffsetLimit :=
    Nat.lt_of_le_of_lt inside opened.size_lt
  have sought : device.seek sector = .ok (sector * sectorBytes) :=
    (seek_eq_ok_iff opened.closed_eq).2 ⟨Nat.lt_of_le_of_lt (Nat.le_add_right _ _) below, rfl⟩
  rw [readAt, wholeSectors_eq_ok_iff.2 ⟨Nat.mod_self _, rfl⟩, sought]
  simp only [Checked.ok_bind]
  rw [if_neg (by decide), if_neg (Nat.not_le_of_lt below), if_neg (Nat.not_lt_of_le inside)]
  rfl

/-- A file of any length is opened for writing, and any calls are made but the one that closes it.
After each of them the device counts the whole sectors of the file, and reads each sector that it
counts, exactly if none of the calls was a write of nothing behind the end of the file. -/
theorem sectorCount_follows_file (content : Content) (short : content.size < fileOffsetLimit)
    (calls : List DeviceCall) (open_still : .close ∉ calls) :
    (∀ count,
      let device := (calls.take count).foldl DeviceCall.after (ofContent content .writing)
      BlockDevice.sectorCount device = device.content.size / sectorBytes ∧
        ∀ sector < BlockDevice.sectorCount device,
          BlockDevice.read device sector sectorBytes =
            .ok (device.content.slice (sector * sectorBytes) sectorBytes)) ↔
      ∀ index, (inside : index < calls.length) →
        ¬ ((calls.take index).foldl DeviceCall.after (ofContent content .writing)).Stray
          calls[index] := by
  have opened : Opened (ofContent content .writing) := ⟨rfl, rfl, short⟩
  have inStep : (ofContent content .writing).InStep := rfl
  rw [← inStep_foldl_after_iff opened inStep open_still]
  constructor
  · intro always count
    exact (always count).1
  · intro always count
    have still : Opened ((calls.take count).foldl DeviceCall.after (ofContent content .writing)) :=
      opened.foldl_after fun member => open_still (List.mem_of_mem_take member)
    refine ⟨always count, fun sector counted => ?_⟩
    rw [show BlockDevice.read _ sector sectorBytes =
        Except.mapError heard (readAt _ sector sectorBytes) from rfl,
      read_of_inStep still (always count) counted]
    rfl

/-- A file of seven hundred bytes takes, between calls that are refused, a write of nothing at its
end, a write behind its end, and a smaller size. -/
theorem sectorCount_follows_shortFile :
    let calls : List DeviceCall := [.write 0 (.fill 1 100), .write 1 .empty, .discard false,
      .write 4 (.fill 2 1024), .write 6 .empty, .truncate 3, .write 3 .empty]
    let device := calls.foldl DeviceCall.after (ofContent (.fill 7 700) .writing)
    BlockDevice.sectorCount device = 3 ∧ device.content.size = 1536 ∧
      ∃ bytes, BlockDevice.read device 2 sectorBytes = .ok bytes := by
  intro calls device
  have open_still : .close ∉ calls := by
    simp only [calls, List.mem_cons, reduceCtorEq, List.not_mem_nil, or_self, not_false_eq_true]
  obtain ⟨counts, reads⟩ := (sectorCount_follows_file (.fill 7 700) (by decide) calls open_still).2
    (by decide +kernel) calls.length
  rw [List.take_length] at counts reads
  have size_eq : device.content.size = 1536 := by decide +kernel
  have counted : BlockDevice.sectorCount device = 3 := counts.trans (by rw [size_eq]; rfl)
  exact ⟨counted, size_eq, _, reads 2 (by rw [counted]; decide)⟩

/-- Writing nothing behind the end of an empty file makes the device count a sector that the file
does not have and that cannot be read. -/
theorem sectorCount_outruns_file :
    let device := DeviceCall.after (ofContent .empty .writing) (.write 1 .empty)
    BlockDevice.sectorCount device = 1 ∧ device.content.size / sectorBytes = 0 ∧
      BlockDevice.read device 0 sectorBytes = .error .endOfFile := by
  exact ⟨rfl, rfl, rfl⟩

end CardFormat.FileDevice
