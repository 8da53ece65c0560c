/-
This file proves that an image in a regular file takes a stream, if the file is open for
writing. As with a device in memory, the file holds what was written, and behind it what it
held before; the size grows where it has to. Offsets that no file has are out of reach of any
card. It also says when each step of a write succeeds, and what it has then done, and that calls
fault on no sectors but those whose byte offsets leave 64 bits.
-/

import CardFormat.Device.File
import CardFormat.Proofs.Attempt
import CardFormat.Proofs.Bytes.Content
import CardFormat.Proofs.Writer

namespace CardFormat.FileDevice

/-- The file is the original one, with the given bytes written to its front. -/
structure Written (origin : FileDevice) (bytes : List UInt8) (device : FileDevice) : Prop where
  content_eq : device.content.toList = bytes ++ origin.content.toList.drop bytes.length
  sectors_eq : device.sectors = max origin.sectors (bytes.length / sectorBytes)
  kept : device = { origin with content := device.content, sectors := device.sectors }

theorem written_nil (origin : FileDevice) : Written origin [] origin where
  content_eq := rfl
  sectors_eq := by rw [List.length_nil, Nat.zero_div, Nat.max_zero]
  kept := rfl

theorem goTo_eq_ok {next : FileDevice → Attempt IoError FileDevice} {device final : FileDevice}
    (result : next device = .ok final) : goTo next device = .ok () final := by
  rw [goTo, result]

theorem goTo_eq_error {next : FileDevice → Attempt IoError FileDevice} {device : FileDevice}
    {failure : Failure IoError} (result : next device = .error failure) :
    goTo next device = .error (heard failure) device := by
  rw [goTo, result]

/-! ### When the steps succeed -/

variable {device next : FileDevice}

theorem wholeSectors_eq_ok_iff {length count : Nat} :
    (wholeSectors length).mapError Failure.refused = .ok count ↔
      length % sectorBytes = 0 ∧ count = length / sectorBytes := by
  by_cases whole : length % sectorBytes = 0
  · rw [wholeSectors, if_pos whole]
    show Except.ok _ = Except.ok count ↔ _
    rw [Except.ok.injEq, eq_comm, and_iff_right whole]
  · rw [wholeSectors, if_neg whole]
    refine iff_of_false (fun equal => ?_) fun both => whole both.1
    cases equal

theorem fits_of_below {number : Nat} (below : number < fileOffsetLimit) : number < 2 ^ 64 :=
  Nat.lt_of_lt_of_le below (by decide)

/-- An offset that files have is passed on. -/
theorem byteOffset_bind_eq_ok_iff {Value : Type} (opened : device.closed = false) {sector : Nat}
    {rest : Nat → Attempt IoError Value} {value : Value} :
    (device.byteOffset sector >>= rest) = .ok value ↔
      sector * sectorBytes < 2 ^ 64 ∧ rest (sector * sectorBytes) = .ok value := by
  rw [byteOffset, opened, if_neg Bool.false_ne_true, Attempt.word64_bind_eq_ok_iff]

theorem seek_eq_ok_iff (opened : device.closed = false) {start offset : Nat} :
    device.seek start = .ok offset ↔
      start * sectorBytes < fileOffsetLimit ∧ offset = start * sectorBytes := by
  rw [seek, byteOffset_bind_eq_ok_iff opened]
  by_cases below : start * sectorBytes < fileOffsetLimit
  · simp only [fits_of_below below, Nat.not_le_of_lt below, if_false, Checked.pure_eq_ok,
      Except.ok.injEq, below, true_and, eq_comm]
  · simp only [Nat.le_of_not_lt below, if_true, Attempt.refuse, reduceCtorEq, below, and_false,
      false_and]

/-- Nothing leaves the file as it is, and all else is laid over it. -/
theorem contentAfter_eq_ok_iff (writable : device.access = .writing) {offset : Nat}
    {bytes content : Content} :
    device.contentAfter offset bytes = .ok content ↔
      (bytes.size = 0 ∨ offset + bytes.size < fileOffsetLimit) ∧
        content =
          if bytes.size = 0 then device.content else device.content.overwrite offset bytes := by
  rw [contentAfter, writable]
  by_cases nothing : bytes.size = 0
  · simp only [nothing, if_true, Except.ok.injEq, true_or, true_and, eq_comm]
  · by_cases below : offset + bytes.size < fileOffsetLimit
    · simp only [nothing, if_false, reduceCtorEq, Nat.not_le_of_lt below, Except.ok.injEq, below,
        or_true, true_and, eq_comm]
    · simp only [nothing, if_false, reduceCtorEq, Nat.le_of_not_lt below, if_true, Attempt.refuse,
        below, or_self, false_and]

/-- A write of whole sectors succeeds if it ends early enough, also a write of nothing. -/
theorem writeAt_eq_ok_iff (writable : device.access = .writing) (opened : device.closed = false)
    {start : Nat} {bytes : Content} :
    device.writeAt start bytes = .ok next ↔
      bytes.size % sectorBytes = 0 ∧ start * sectorBytes + bytes.size < fileOffsetLimit ∧
        next = { device with
          content :=
            if bytes.size = 0 then device.content
            else device.content.overwrite (start * sectorBytes) bytes
          sectors := max device.sectors (start + bytes.size / sectorBytes) } := by
  simp only [writeAt, Checked.bind_eq_ok_iff, wholeSectors_eq_ok_iff, seek_eq_ok_iff opened,
    contentAfter_eq_ok_iff writable, Checked.pure_eq_ok, Except.ok.injEq]
  constructor
  · rintro ⟨_, ⟨whole, rfl⟩, _, ⟨below, rfl⟩, _, ⟨narrow, rfl⟩, rfl⟩
    refine ⟨whole, ?_, rfl⟩
    rcases narrow with nothing | ends
    · rw [nothing, Nat.add_zero]
      exact below
    · exact ends
  · rintro ⟨whole, below, rfl⟩
    exact ⟨_, ⟨whole, rfl⟩, _, ⟨Nat.lt_of_le_of_lt (Nat.le_add_right _ _) below, rfl⟩, _,
      ⟨.inr below, rfl⟩, rfl⟩

theorem resized_eq_ok_iff (writable : device.access = .writing) (opened : device.closed = false)
    {sectors : Nat} :
    device.resized sectors = .ok next ↔ sectors * sectorBytes < fileOffsetLimit ∧
      next = { device with content := device.content.resize (sectors * sectorBytes), sectors } := by
  rw [resized, byteOffset_bind_eq_ok_iff opened, writable]
  by_cases below : sectors * sectorBytes < fileOffsetLimit
  · simp only [fits_of_below below, Nat.not_le_of_lt below, if_false, reduceCtorEq,
      Checked.pure_eq_ok, Except.ok.injEq, below, true_and, eq_comm]
  · simp only [Nat.le_of_not_lt below, if_true, Attempt.refuse, reduceCtorEq, below, and_false,
      false_and]

/-- A file that is open for writing takes whole sectors anywhere below the last offset. -/
theorem writeAt_eq_ok {start : Nat} {bytes : Content} (writable : device.access = .writing)
    (opened : device.closed = false) (whole : bytes.size % sectorBytes = 0)
    (some : 0 < bytes.size) (below : start * sectorBytes + bytes.size < fileOffsetLimit) :
    device.writeAt start bytes = .ok { device with
      content := device.content.overwrite (start * sectorBytes) bytes
      sectors := max device.sectors (start + bytes.size / sectorBytes) } := by
  rw [writeAt_eq_ok_iff writable opened, if_neg (Nat.ne_of_gt some)]
  exact ⟨whole, below, rfl⟩

theorem resized_eq_ok {sectors : Nat} (writable : device.access = .writing)
    (opened : device.closed = false) (below : sectors * sectorBytes < fileOffsetLimit) :
    device.resized sectors =
      .ok { device with content := device.content.resize (sectors * sectorBytes), sectors } :=
  (resized_eq_ok_iff writable opened).2 ⟨below, rfl⟩

/-! ### When the steps fault -/

theorem byteOffset_eq_fault_iff {sector : Nat} {cause : Fault} :
    device.byteOffset sector = .error (.fault cause) ↔
      device.closed = false ∧ 2 ^ 64 ≤ sector * sectorBytes ∧ cause = .overflow := by
  unfold byteOffset
  cases device.closed with
  | true => simp only [if_true, Attempt.refuse, Except.error.injEq, reduceCtorEq, false_and]
  | false =>
    rw [if_neg Bool.false_ne_true]
    by_cases fits : sector * sectorBytes < 2 ^ 64
    · rw [Checked.word64_of_lt fits]
      exact iff_of_false nofun fun faults => Nat.not_le_of_lt fits faults.2.1
    · rw [Checked.word64, if_neg fits]
      constructor
      · rintro ⟨⟩
        exact ⟨rfl, Nat.le_of_not_lt fits, rfl⟩
      · rintro ⟨-, -, rfl⟩
        rfl

theorem seek_eq_fault_iff {start : Nat} {cause : Fault} :
    device.seek start = .error (.fault cause) ↔
      device.closed = false ∧ 2 ^ 64 ≤ start * sectorBytes ∧ cause = .overflow := by
  rw [← byteOffset_eq_fault_iff]
  refine Attempt.bind_eq_fault_iff fun offset => ?_
  split
  · exact nofun
  · exact nofun

/-- A transfer faults exactly if it is one of whole sectors, the device is open, and the byte offset
leaves 64 bits. What comes behind these steps is an answer. -/
theorem transfer_eq_fault_iff {Value : Type} {start length : Nat} {cause : Fault}
    {rest : Nat → Nat → Attempt IoError Value}
    (answers : ∀ count offset, rest count offset ≠ .error (.fault cause)) :
    ((wholeSectors length).mapError Failure.refused >>= fun count =>
        device.seek start >>= rest count) = .error (.fault cause) ↔
      length % sectorBytes = 0 ∧ device.closed = false ∧ 2 ^ 64 ≤ start * sectorBytes ∧
        cause = .overflow := by
  rw [← seek_eq_fault_iff]
  by_cases whole : length % sectorBytes = 0
  · rw [wholeSectors_eq_ok_iff.2 ⟨whole, rfl⟩, Checked.ok_bind, and_iff_right whole]
    exact Attempt.bind_eq_fault_iff (answers _)
  · refine iff_of_false ?_ fun faults => whole faults.1
    rw [wholeSectors, if_neg whole]
    exact nofun

theorem readAt_eq_fault_iff {start length : Nat} {cause : Fault} :
    device.readAt start length = .error (.fault cause) ↔
      length % sectorBytes = 0 ∧ device.closed = false ∧ 2 ^ 64 ≤ start * sectorBytes ∧
        cause = .overflow := by
  refine transfer_eq_fault_iff fun count offset => ?_
  split
  · exact nofun
  · split
    · exact nofun
    · split
      · exact nofun
      · exact nofun

theorem contentAfter_ne_fault (device : FileDevice) (offset : Nat) (bytes : Content)
    (cause : Fault) : device.contentAfter offset bytes ≠ .error (.fault cause) := by
  unfold contentAfter
  split
  · exact nofun
  · split
    · exact nofun
    · split
      · exact nofun
      · exact nofun

theorem writeAt_eq_fault_iff {start : Nat} {bytes : Content} {cause : Fault} :
    device.writeAt start bytes = .error (.fault cause) ↔
      bytes.size % sectorBytes = 0 ∧ device.closed = false ∧ 2 ^ 64 ≤ start * sectorBytes ∧
        cause = .overflow := by
  refine transfer_eq_fault_iff fun count offset faults => ?_
  refine device.contentAfter_ne_fault offset bytes cause
    ((Attempt.bind_eq_fault_iff ?_).1 faults)
  exact fun content => nofun

/-- Resizing faults exactly if the device is open and the length leaves 64 bits. -/
theorem resized_eq_fault_iff {sectors : Nat} {cause : Fault} :
    device.resized sectors = .error (.fault cause) ↔
      device.closed = false ∧ 2 ^ 64 ≤ sectors * sectorBytes ∧ cause = .overflow := by
  rw [← byteOffset_eq_fault_iff]
  refine Attempt.bind_eq_fault_iff fun length => ?_
  split
  · exact nofun
  · split
    · exact nofun
    · exact nofun

/-! ### A stream of writes -/

/-- A file that is open for writing takes any writes below the last offset. -/
theorem takes_written {origin : FileDevice} (writable : origin.access = .writing)
    (opened : origin.closed = false) (most widest : Nat) {limit : Nat}
    (below : limit < fileOffsetLimit) :
    Writer.Takes (fun _ => Written origin) most widest limit where
  write_eq_ok count bytes device blocks more holds few length_eq some narrow whole fits := by
    have behind : blocks * blockSectors * sectorBytes = bytes.length := by
      rw [length_eq, Nat.mul_assoc]
      rfl
    have place : bytes.length / sectorBytes = blocks * blockSectors := by
      rw [← behind]
      exact Nat.mul_div_cancel _ (by decide)
    have stop : (bytes.length + more.size) / sectorBytes =
        blocks * blockSectors + more.size / sectorBytes := by
      rw [← behind, Nat.mul_comm, Nat.mul_add_div (by decide)]
    refine ⟨_, goTo_eq_ok (writeAt_eq_ok ?_ ?_ whole some ?_), ?_, ?_, ?_⟩
    · rw [holds.kept]
      exact writable
    · rw [holds.kept]
      exact opened
    · rw [behind]
      exact Nat.lt_of_le_of_lt fits below
    · simp only [behind]
      exact Content.toList_overwrite_behind holds.content_eq
    · rw [List.length_append, Content.length_toList, stop]
      simp only [holds.sectors_eq, place]
      rw [Nat.max_assoc, Nat.max_eq_right (Nat.le_add_right _ _)]
    · simp only
      rw [holds.kept]

end CardFormat.FileDevice
