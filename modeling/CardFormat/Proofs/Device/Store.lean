/-
This file proves that a device in memory is a store of bytes. What it holds at an offset follows
from the history of the calls alone: it is the byte last written there since the device was last
discarded or cut off at or before the offset. If there is none it is zero, or the byte of the
beginning if the device was never discarded or cut off there. The size of an image follows from
the history as well, and that of a card is fixed. A call that fails leaves everything as it was.
-/

import CardFormat.Proofs.Device.Calls
import CardFormat.Proofs.Device.Memory

namespace CardFormat

/-! ### What a record says -/

namespace CallRecord

/-- The byte that the call put at an offset, if it put one there. -/
def storedByte (offset : Nat) : CallRecord → Option UInt8
  | ⟨.write start bytes, none⟩ =>
    if start * sectorBytes ≤ offset then bytes.toList[offset - start * sectorBytes]? else none
  | _ => none

/-- The call took away what was at an offset: it discarded the device or cut it off there. -/
def clears (offset : Nat) : CallRecord → Bool
  | ⟨.discard _, none⟩ => true
  | ⟨.truncate sectors, none⟩ => sectors * sectorBytes ≤ offset
  | _ => false

/-- Where the call stopped to write, in sectors, if it wrote. -/
def writtenEnd : CallRecord → Option Nat
  | ⟨.write start bytes, none⟩ => some (start + bytes.size / sectorBytes)
  | _ => none

/-- The size in sectors that the call gave the device, if it resized it. -/
def newSize : CallRecord → Option Nat
  | ⟨.truncate sectors, none⟩ => some sectors
  | _ => none

/-- The records behind the last one of a kind, newest first. -/
def since (last : CallRecord → Bool) (records : List CallRecord) : List CallRecord :=
  records.reverse.takeWhile fun record => !last record

/-- The byte that the calls leave at an offset that held a given one at first. -/
def byteLeft (records : List CallRecord) (initial : UInt8) (offset : Nat) : UInt8 :=
  match (since (clears offset) records).findSome? (storedByte offset) with
  | some byte => byte
  | none => if records.any (clears offset) then 0 else initial

/-- The size in sectors that the calls leave of an image that had a given one at first. -/
def sizeLeft (records : List CallRecord) (initial : Nat) : Nat :=
  ((since (fun record => record.newSize.isSome) records).filterMap writtenEnd).foldr max
    ((records.reverse.findSome? newSize).getD initial)

variable {records : List CallRecord} {record : CallRecord}

theorem since_concat (last : CallRecord → Bool) (records : List CallRecord) (record : CallRecord) :
    since last (records ++ [record]) =
      if last record then [] else record :: since last records := by
  rw [since, List.reverse_append, List.reverse_singleton, List.singleton_append,
    List.takeWhile_cons]
  cases last record with
  | true => rfl
  | false => rfl

/-- One more record clears the byte, or puts another one there, or leaves it. -/
theorem byteLeft_concat (records : List CallRecord) (record : CallRecord) (initial : UInt8)
    (offset : Nat) :
    byteLeft (records ++ [record]) initial offset =
      if record.clears offset then 0
      else (record.storedByte offset).getD (byteLeft records initial offset) := by
  rw [byteLeft, since_concat, List.any_append]
  cases cleared : record.clears offset with
  | true =>
    rw [if_pos rfl, if_pos rfl, List.findSome?_nil, List.any_cons, cleared, Bool.true_or,
      Bool.or_true]
    rfl
  | false =>
    rw [if_neg Bool.false_ne_true, if_neg Bool.false_ne_true, List.findSome?_cons,
      List.any_cons, cleared, Bool.false_or, List.any_nil, Bool.or_false, byteLeft]
    cases record.storedByte offset with
    | none => rfl
    | some byte => rfl

/-- One more record gives the size, or raises it to where a write ended. -/
theorem sizeLeft_concat (records : List CallRecord) (record : CallRecord) (initial : Nat) :
    sizeLeft (records ++ [record]) initial =
      record.newSize.getD (max (record.writtenEnd.getD 0) (sizeLeft records initial)) := by
  rw [sizeLeft, since_concat, List.reverse_append, List.reverse_singleton, List.singleton_append,
    List.findSome?_cons]
  cases resized : record.newSize with
  | some sectors => rfl
  | none =>
    rw [Option.isSome_none, if_neg Bool.false_ne_true, List.filterMap_cons, sizeLeft]
    cases record.writtenEnd with
    | none => exact (Nat.zero_max _).symm
    | some stop => rfl

/-- A call that failed has done nothing. -/
theorem nothing_of_failed (call : DeviceCall) (error : IoError) (offset : Nat) :
    storedByte offset ⟨call, some error⟩ = none ∧ clears offset ⟨call, some error⟩ = false ∧
      writtenEnd ⟨call, some error⟩ = none ∧ newSize ⟨call, some error⟩ = none := by
  cases call <;> exact ⟨rfl, rfl, rfl, rfl⟩

end CallRecord

namespace MemoryDevice

/-! ### What a call does -/

/-- The failure that a call meets, if it meets one. -/
def obstacle (device : MemoryDevice) : DeviceCall → Option IoError
  | .write start bytes => device.writeFailure start bytes.size
  | .discard _ => device.discardObstacle
  | .truncate _ => device.truncateObstacle
  | .close => device.closeFailure

/-- The device after a call that meets no failure. -/
def carriedOut (device : MemoryDevice) : DeviceCall → MemoryDevice
  | .write start bytes => device.written start bytes
  | .discard secure => device.discarded secure
  | .truncate sectors => device.truncated sectors
  | .close => { device with closed := true }

theorem perform_eq (device : MemoryDevice) (call : DeviceCall) :
    call.perform device = proceed (device.obstacle call) (device.carriedOut call) device := by
  cases call with
  | write start bytes => rfl
  | discard secure => rfl
  | truncate sectors => rfl
  | close => rfl

theorem record_eq (device : MemoryDevice) (call : DeviceCall) :
    call.record device = ⟨call, device.obstacle call⟩ := by
  rw [DeviceCall.record, perform_eq]
  cases device.obstacle call with
  | none => rfl
  | some error => rfl

theorem after_of_obstacle {device : MemoryDevice} {call : DeviceCall} {error : IoError}
    (meets : device.obstacle call = some error) : call.after device = device := by
  rw [DeviceCall.after, perform_eq, meets]
  rfl

theorem after_of_free {device : MemoryDevice} {call : DeviceCall}
    (free : device.obstacle call = none) : call.after device = device.carriedOut call := by
  rw [DeviceCall.after, perform_eq, free]
  rfl

theorem byteAt_carriedOut (device : MemoryDevice) (call : DeviceCall) (offset : Nat) :
    (device.carriedOut call).data.byteAt offset =
      if CallRecord.clears offset ⟨call, none⟩ then 0
      else (CallRecord.storedByte offset ⟨call, none⟩).getD (device.data.byteAt offset) := by
  cases call with
  | write start bytes =>
    exact Content.byteAt_overwrite device.data bytes (start * sectorBytes) offset
  | discard secure => rfl
  | truncate sectors =>
    show (device.data.take (sectors * sectorBytes)).byteAt offset =
      if decide (sectors * sectorBytes ≤ offset) then 0 else device.data.byteAt offset
    rw [Content.byteAt_take]
    rcases Nat.lt_or_ge offset (sectors * sectorBytes) with inside | beyond
    · rw [if_pos inside, decide_eq_false (Nat.not_le_of_lt inside), if_neg Bool.false_ne_true]
    · rw [if_neg (Nat.not_lt_of_le beyond), decide_eq_true beyond, if_pos rfl]
  | close => rfl

theorem regularFile_carriedOut (device : MemoryDevice) (call : DeviceCall) :
    (device.carriedOut call).regularFile = device.regularFile := by
  cases call with
  | write start bytes => rfl
  | discard secure => rfl
  | truncate sectors => rfl
  | close => rfl

/-- An image is as large as the records say after a call too. -/
theorem sectors_carriedOut_image {device : MemoryDevice} {records : List CallRecord}
    {initial : Nat} (regular : device.regularFile = true)
    (size_eq : device.sectors = CallRecord.sizeLeft records initial) (call : DeviceCall) :
    (device.carriedOut call).sectors =
      CallRecord.sizeLeft (records ++ [⟨call, none⟩]) initial := by
  rw [CallRecord.sizeLeft_concat, ← size_eq]
  cases call with
  | write start bytes =>
    show (if device.regularFile then max device.sectors (start + bytes.size / sectorBytes)
      else device.sectors) = max (start + bytes.size / sectorBytes) device.sectors
    rw [regular, if_pos rfl, Nat.max_comm]
  | discard secure => exact (Nat.zero_max _).symm
  | truncate sectors => rfl
  | close => exact (Nat.zero_max _).symm

theorem inside_of_writeFailure {device : MemoryDevice} {start length : Nat}
    (card : device.regularFile = false) (free : device.writeFailure start length = none) :
    start + length / sectorBytes ≤ device.sectors := by
  refine Nat.le_of_not_lt fun beyond => ?_
  rw [writeFailure, card, decide_eq_true beyond] at free
  split at free
  · cases free
  · split at free
    · cases free
    · split at free
      · cases free
      · cases free

/-- A card keeps its size, and what is written to it ends inside. -/
theorem sectors_carriedOut_card {device : MemoryDevice} {call : DeviceCall}
    (card : device.regularFile = false) (free : device.obstacle call = none) :
    (device.carriedOut call).sectors = device.sectors ∧
      ∀ stop, CallRecord.writtenEnd ⟨call, none⟩ = some stop → stop ≤ device.sectors := by
  cases call with
  | write start bytes =>
    constructor
    · show (if device.regularFile then max device.sectors (start + bytes.size / sectorBytes)
        else device.sectors) = device.sectors
      rw [card, if_neg Bool.false_ne_true]
    · intro stop ends
      rw [← Option.some.inj ends]
      exact inside_of_writeFailure card free
  | discard secure => exact ⟨rfl, nofun⟩
  | truncate sectors =>
    have regular := regularFile_of_truncate free
    rw [card] at regular
    cases regular
  | close => exact ⟨rfl, nofun⟩

/-! ### What is left after the calls -/

/-- The device is what the calls on record leave of the original one. -/
structure Left (origin : MemoryDevice) (records : List CallRecord) (device : MemoryDevice) :
    Prop where
  byteAt_eq : ∀ offset, device.data.byteAt offset =
    CallRecord.byteLeft records (origin.data.byteAt offset) offset
  regularFile_eq : device.regularFile = origin.regularFile
  image : origin.regularFile = true →
    device.sectors = CallRecord.sizeLeft records origin.sectors
  card : origin.regularFile = false → device.sectors = origin.sectors ∧
    ∀ record ∈ records, ∀ stop, record.writtenEnd = some stop → stop ≤ origin.sectors

theorem left_nil (origin : MemoryDevice) : Left origin [] origin where
  byteAt_eq _ := rfl
  regularFile_eq := rfl
  image _ := rfl
  card _ := ⟨rfl, nofun⟩

namespace Left

variable {origin device : MemoryDevice} {records : List CallRecord}

theorem failed (left : Left origin records device) (call : DeviceCall) (error : IoError) :
    Left origin (records ++ [⟨call, some error⟩]) device where
  byteAt_eq offset := by
    obtain ⟨unstored, uncleared, -, -⟩ := CallRecord.nothing_of_failed call error offset
    rw [CallRecord.byteLeft_concat, unstored, uncleared]
    exact left.byteAt_eq offset
  regularFile_eq := left.regularFile_eq
  image regular := by
    obtain ⟨-, -, unwritten, unsized⟩ := CallRecord.nothing_of_failed call error 0
    rw [CallRecord.sizeLeft_concat, unwritten, unsized]
    exact (left.image regular).trans (Nat.zero_max _).symm
  card fixed := by
    refine ⟨(left.card fixed).1, fun record member stop ends => ?_⟩
    rcases List.mem_append.1 member with before | last
    · exact (left.card fixed).2 record before stop ends
    · rw [List.mem_singleton.1 last, (CallRecord.nothing_of_failed call error 0).2.2.1] at ends
      cases ends

theorem carriedOut (left : Left origin records device) {call : DeviceCall}
    (free : device.obstacle call = none) :
    Left origin (records ++ [⟨call, none⟩]) (device.carriedOut call) where
  byteAt_eq offset := by
    rw [byteAt_carriedOut, CallRecord.byteLeft_concat, left.byteAt_eq]
  regularFile_eq := (regularFile_carriedOut device call).trans left.regularFile_eq
  image regular :=
    sectors_carriedOut_image (left.regularFile_eq.trans regular) (left.image regular) call
  card fixed := by
    obtain ⟨size_eq, inside⟩ := left.card fixed
    obtain ⟨kept, ends_inside⟩ := sectors_carriedOut_card (left.regularFile_eq.trans fixed) free
    refine ⟨kept.trans size_eq, fun record member stop ends => ?_⟩
    rcases List.mem_append.1 member with before | last
    · exact inside record before stop ends
    · rw [List.mem_singleton.1 last] at ends
      exact size_eq ▸ ends_inside stop ends

/-- One more call. -/
theorem after (left : Left origin records device) (call : DeviceCall) :
    Left origin (records ++ [call.record device]) (call.after device) := by
  rw [record_eq]
  cases meets : device.obstacle call with
  | none =>
    rw [after_of_free meets]
    exact left.carriedOut meets
  | some error =>
    rw [after_of_obstacle meets]
    exact left.failed call error

end Left

/-- Any more calls. -/
theorem Left.foldl_after {origin device : MemoryDevice} {records : List CallRecord}
    (left : Left origin records device) (calls : List DeviceCall) :
    Left origin (records ++ DeviceCall.history device calls)
      (calls.foldl DeviceCall.after device) := by
  induction calls generalizing records device with
  | nil =>
    rw [DeviceCall.history, List.append_nil]
    exact left
  | cons call rest inductionHypothesis =>
    rw [DeviceCall.history, ← List.singleton_append, ← List.append_assoc]
    exact inductionHypothesis (left.after call)

/-- After any calls all bytes of the device are those that the history leaves, and these are
read. A call that fails then leaves the device as it is. A card has kept its size, and no write
has ended behind it; the size of an image is the one that the history leaves. -/
theorem follows_history (origin : MemoryDevice) (calls : List DeviceCall) :
    let device := calls.foldl DeviceCall.after origin
    let records := DeviceCall.history origin calls
    (∀ offset length, (device.bytes offset length).toList =
        (List.range' offset length).map fun place =>
          CallRecord.byteLeft records (origin.data.byteAt place) place) ∧
      (∀ start length, length % sectorBytes = 0 →
        BlockDevice.read device start length = .ok (device.bytes (start * sectorBytes) length)) ∧
      (∀ (call : DeviceCall) error next,
        call.perform device = .error error next → next = device) ∧
      (origin.regularFile = false → device.sectors = origin.sectors ∧
        ∀ record ∈ records, ∀ stop, record.writtenEnd = some stop → stop ≤ origin.sectors) ∧
      (origin.regularFile = true →
        device.sectors = CallRecord.sizeLeft records origin.sectors) := by
  intro device records
  have left : Left origin records device := (left_nil origin).foldl_after calls
  refine ⟨?_, ?_, ?_, left.card, left.image⟩
  · intro offset length
    rw [bytes, Content.toList_window_eq_map]
    exact List.map_congr_left fun place _ => left.byteAt_eq place
  · intro start length whole
    show (wholeSectors length >>= fun _ => _) = _
    rw [wholeSectors, if_pos whole]
    rfl
  · intro call error next fails
    rw [perform_eq] at fails
    exact (proceed_eq_error_iff.1 fails).2

/-- An image that holds two sectors is written behind its end, cut off after its first sector and
written again behind the new end; two more calls fail. The first sector is as it was, what was
cut off reads as zero, and the last sector is the one written last. -/
theorem follows_history_cutAndRegrown :
    let origin := { image 2 with data := .fill 0xAA 1024 }
    let calls := [.write 3 (.fill 7 512), .truncate 1, .write 2 (.fill 9 512),
      .write 0 (.ofList [1]), .discard true]
    let device := calls.foldl DeviceCall.after origin
    (device.bytes 511 2).toList = [0xAA, 0] ∧ (device.bytes 1023 2).toList = [0, 9] ∧
      (device.bytes 1535 2).toList = [9, 0] ∧ device.sectors = 3 := by
  intro origin calls device
  obtain ⟨bytes, -, -, -, size⟩ := follows_history origin calls
  refine ⟨(bytes 511 2).trans ?_, (bytes 1023 2).trans ?_, (bytes 1535 2).trans ?_,
    (size rfl).trans ?_⟩
  all_goals decide +kernel

end MemoryDevice

end CardFormat
