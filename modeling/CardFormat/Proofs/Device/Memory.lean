/-
This file proves that a device in memory takes a stream. After a part of it was written,
the device holds that part, and behind it what it held before; an image has grown if it
had to. Nothing else about the device changes, but that the writes are on record, one
behind the other. A device that was told to fail after a number of writes takes that many
and then stops.
-/

import CardFormat.Proofs.Bytes.Content
import CardFormat.Proofs.Device.Records
import CardFormat.Proofs.Writer

namespace CardFormat.MemoryDevice

/-- The device is the original one, with the given bytes written to its front. -/
structure Written (origin : MemoryDevice) (bytes : List UInt8) (device : MemoryDevice) : Prop where
  data_eq : device.data.toList = bytes ++ origin.data.toList.drop bytes.length
  sectors_eq : device.sectors =
    if origin.regularFile then max origin.sectors (bytes.length / sectorBytes) else origin.sectors
  kept : device =
    { origin with data := device.data, sectors := device.sectors, writes := device.writes }

theorem written_nil (origin : MemoryDevice) : Written origin [] origin where
  data_eq := rfl
  sectors_eq := by
    rw [List.length_nil, Nat.zero_div, Nat.max_zero, ite_self]
  kept := rfl

namespace Written

variable {origin device : MemoryDevice} {bytes : List UInt8}

theorem regularFile_eq (written : Written origin bytes device) :
    device.regularFile = origin.regularFile := by
  rw [written.kept]

theorem closed_eq (written : Written origin bytes device) : device.closed = origin.closed := by
  rw [written.kept]

theorem writeLimit_eq (written : Written origin bytes device) :
    device.writeLimit = origin.writeLimit := by
  rw [written.kept]

/-- Bytes that the device has room for leave its size as it was. -/
theorem sectors_eq_of_le (written : Written origin bytes device)
    (inside : bytes.length ≤ origin.sectors * sectorBytes) : device.sectors = origin.sectors := by
  have few : bytes.length / sectorBytes ≤ origin.sectors :=
    Nat.div_le_of_le_mul (by rw [Nat.mul_comm]; exact inside)
  rw [written.sectors_eq, Nat.max_eq_left few, ite_self]

/-- A write behind the bytes makes them longer. -/
theorem extend (written : Written origin bytes device) {start : Nat}
    (behind : start * sectorBytes = bytes.length) {more : Content}
    (whole : more.size % sectorBytes = 0) :
    Written origin (bytes ++ more.toList) (device.written start more) := by
  have sectors := written.sectors_eq
  refine ⟨?_, ?_, ?_⟩
  · rw [MemoryDevice.written, behind, Content.toList_overwrite_behind written.data_eq]
  · have stop : (bytes.length + more.size) / sectorBytes = start + more.size / sectorBytes := by
      unfold sectorBytes at behind whole ⊢
      omega
    have before : bytes.length / sectorBytes = start := by
      unfold sectorBytes at behind ⊢
      omega
    show (if device.regularFile then max device.sectors (start + more.size / sectorBytes)
      else device.sectors) = _
    rw [written.regularFile_eq, List.length_append, Content.length_toList, stop, sectors, before]
    split
    · rw [Nat.max_assoc, Nat.max_eq_right (Nat.le_add_right start _)]
    · rfl
  · rw [MemoryDevice.written, written.kept]

end Written

/-! ### Resizing -/

theorem proceed_eq_ok_iff {obstacle : Option IoError} {device next final : MemoryDevice} :
    proceed obstacle next device = .ok () final ↔ obstacle = none ∧ final = next := by
  cases obstacle with
  | none =>
    constructor
    · intro succeeds
      cases succeeds
      exact ⟨rfl, rfl⟩
    · rintro ⟨-, rfl⟩
      rfl
  | some error =>
    constructor
    · intro impossible
      cases impossible
    · rintro ⟨impossible, -⟩
      cases impossible

/-- What fails leaves the device as it is. -/
theorem proceed_eq_error_iff {obstacle : Option IoError} {device next final : MemoryDevice}
    {error : IoError} :
    proceed obstacle next device = .error error final ↔ obstacle = some error ∧ final = device := by
  cases obstacle with
  | none =>
    constructor
    · intro impossible
      cases impossible
    · rintro ⟨impossible, -⟩
      cases impossible
  | some cause =>
    constructor
    · intro fails
      cases fails
      exact ⟨rfl, rfl⟩
    · rintro ⟨⟨⟩, rfl⟩
      rfl

theorem truncate_eq_ok_iff {device sized : MemoryDevice} {sectors : Nat} :
    (BlockDevice.truncate sectors : DeviceAction MemoryDevice Unit) device = .ok () sized ↔
      device.truncateObstacle = none ∧ sized = device.truncated sectors :=
  proceed_eq_ok_iff

/-- Only images are resized. -/
theorem regularFile_of_truncate {device : MemoryDevice} (free : device.truncateObstacle = none) :
    device.regularFile = true := by
  cases regular : device.regularFile with
  | true => rfl
  | false =>
    unfold truncateObstacle at free
    rw [regular] at free
    cases failure : device.truncateFailure with
    | none =>
      rw [failure] at free
      cases free
    | some error =>
      rw [failure] at free
      cases free

/-! ### The writes on record -/

/-- The writes to the front of the device are on record: so many, one behind the other, and
none wider than allowed. -/
structure Recorded (origin : MemoryDevice) (widest count : Nat) (bytes : List UInt8)
    (device : MemoryDevice) : Prop extends Written origin bytes device where
  writes_eq : ∃ records, device.writes = origin.writes ++ records ∧ records.length = count ∧
    Tiling records bytes.length
  length_le : bytes.length ≤ count * widest
  count_lt : count * blockBytes < bytes.length + blockBytes

theorem recorded_nil (origin : MemoryDevice) (widest : Nat) :
    Recorded origin widest 0 [] origin where
  toWritten := written_nil origin
  writes_eq := ⟨[], (List.append_nil _).symm, rfl, Tiling.nil⟩
  length_le := Nat.zero_le _
  count_lt := by
    rw [Nat.zero_mul]
    exact Nat.lt_add_left _ Writer.blockBytes_pos

namespace Recorded

variable {origin device : MemoryDevice} {widest count : Nat} {bytes : List UInt8}

theorem length_writes (recorded : Recorded origin widest count bytes device) :
    device.writes.length = origin.writes.length + count := by
  obtain ⟨records, equal, length_eq, -⟩ := recorded.writes_eq
  rw [equal, List.length_append, length_eq]

/-- If no write is wider than a block, there is one for each block that the bytes touch. -/
theorem count_eq (recorded : Recorded origin blockBytes count bytes device) :
    count = (bytes.length + blockBytes - 1) / blockBytes := by
  have most := recorded.length_le
  have least := recorded.count_lt
  unfold blockBytes at most least ⊢
  omega

/-- A write at the next block goes with the others. -/
theorem extend (recorded : Recorded origin widest count bytes device) {blocks : Nat}
    (length_eq : bytes.length = blocks * blockBytes) {more : Content} (some : 0 < more.size)
    (narrow : more.size ≤ widest) (whole : more.size % sectorBytes = 0) :
    Recorded origin widest (count + 1) (bytes ++ more.toList)
      (device.written (blocks * blockSectors) more) := by
  have behind : blocks * blockSectors * sectorBytes = bytes.length := by
    rw [length_eq, Nat.mul_assoc]
    rfl
  have most := recorded.length_le
  have least := recorded.count_lt
  obtain ⟨records, equal, count_eq, tiling⟩ := recorded.writes_eq
  rw [length_eq] at tiling
  refine ⟨recorded.toWritten.extend behind whole,
    ⟨records ++ [⟨blocks * blockSectors, more.size⟩], ?_, ?_, ?_⟩, ?_, ?_⟩
  · rw [written, equal, List.append_assoc]
  · rw [List.length_append, count_eq, List.length_singleton]
  · rw [List.length_append, Content.length_toList, length_eq]
    exact tiling.append some
  · rw [List.length_append, Content.length_toList, Nat.succ_mul]
    exact Nat.add_le_add most narrow
  · rw [List.length_append, Content.length_toList]
    rw [length_eq] at least ⊢
    have few : count ≤ blocks := Nat.le_of_lt_succ (Nat.lt_of_mul_lt_mul_right (a := blockBytes)
      (by rw [Nat.succ_mul]; exact least))
    have product := Nat.mul_le_mul_right blockBytes few
    rw [Nat.succ_mul]
    omega

end Recorded

/-! ### Writes that succeed and writes that fail -/

variable {device : MemoryDevice} {start length : Nat}

/-- Nothing is in the way of a write that a card has room for. -/
theorem writeFailure_eq_none (whole : length % sectorBytes = 0) (opened : device.closed = false)
    (enough : ∀ bound, device.writeLimit = some bound → device.writes.length < bound)
    (room : device.regularFile = true ∨ start + length / sectorBytes ≤ device.sectors) :
    device.writeFailure start length = none := by
  have unlimited : device.writeLimit.any (· ≤ device.writes.length) = false := by
    cases limited : device.writeLimit with
    | none => rfl
    | some bound =>
      rw [Option.any_some]
      exact decide_eq_false (Nat.not_le_of_lt (enough bound limited))
  rw [writeFailure, if_neg (not_not_intro whole), opened, unlimited]
  simp only [Bool.false_eq_true, if_false]
  rcases room with regular | inside
  · rw [regular]
    rfl
  · rw [decide_eq_false (Nat.not_lt_of_le inside), Bool.and_false]
    rfl

/-- No write succeeds after the last that was allowed. -/
theorem writeFailure_of_limit {bound : Nat} (limited : device.writeLimit = some bound)
    (reached : bound ≤ device.writes.length) (start length : Nat) :
    ∃ error, device.writeFailure start length = some error := by
  unfold writeFailure
  split
  · exact ⟨_, rfl⟩
  · split
    · exact ⟨_, rfl⟩
    · rw [limited, Option.any_some, decide_eq_true reached]
      exact ⟨_, rfl⟩

theorem write_of_limit {bound : Nat} (limited : device.writeLimit = some bound)
    (reached : bound ≤ device.writes.length) (start : Nat) (bytes : Content) :
    ∃ error, BlockDevice.write start bytes device = .error error device := by
  obtain ⟨error, failure⟩ := writeFailure_of_limit limited reached start bytes.size
  exact ⟨error, proceed_eq_error_iff.2 ⟨failure, rfl⟩⟩

/-- A device takes what it has room for and as many writes as it allows; an image has room for
everything. -/
theorem takes_recorded {origin : MemoryDevice} {most limit : Nat} (widest : Nat)
    (opened : 0 < most → origin.closed = false)
    (enough : ∀ bound, origin.writeLimit = some bound → origin.writes.length + most ≤ bound)
    (room : origin.regularFile = true ∨ limit ≤ origin.sectors * sectorBytes) :
    Writer.Takes (Recorded origin widest) most widest limit where
  write_eq_ok count bytes device blocks more recorded few length_eq some narrow whole fits := by
    have behind : blocks * blockSectors * sectorBytes = bytes.length := by
      rw [length_eq, Nat.mul_assoc]
      rfl
    have sectors := recorded.sectors_eq
    have inside : device.regularFile = true ∨
        blocks * blockSectors + more.size / sectorBytes ≤ device.sectors := by
      rw [recorded.regularFile_eq]
      refine room.imp_right fun enough => ?_
      have kept : origin.sectors ≤ device.sectors := by
        rw [sectors]
        split
        · exact Nat.le_max_left _ _
        · exact Nat.le_refl _
      unfold sectorBytes at behind whole enough
      unfold sectorBytes
      omega
    have allowed : ∀ bound, device.writeLimit = Option.some bound →
        device.writes.length < bound := by
      intro bound limited
      rw [recorded.writeLimit_eq] at limited
      rw [recorded.length_writes]
      exact Nat.lt_of_lt_of_le (Nat.add_lt_add_left few _) (enough bound limited)
    refine ⟨device.written (blocks * blockSectors) more, ?_,
      recorded.extend length_eq some narrow whole⟩
    have unclosed : device.closed = false := by
      rw [recorded.closed_eq]
      exact opened (Nat.zero_lt_of_lt few)
    show proceed (device.writeFailure (blocks * blockSectors) more.size) _ device = _
    rw [writeFailure_eq_none whole unclosed allowed inside]
    rfl

/-- A device that allows no more writes stops. -/
theorem stops_recorded {origin : MemoryDevice} {most bound : Nat} (widest : Nat)
    (limited : origin.writeLimit = some bound) (last : bound ≤ origin.writes.length + most) :
    Writer.Stops (Recorded origin widest) most := by
  intro bytes device blocks more recorded _
  exact write_of_limit (recorded.writeLimit_eq.trans limited)
    (recorded.length_writes.symm ▸ last) _ more

end CardFormat.MemoryDevice
