/-
This file follows the writing of a card from its first byte to its last. The partition
table and the structures of the volume become one stream, and a device that takes the
stream holds it in the end. A device that stops before holds whole blocks of it, and what
failed is the volume, never the partition table. The volume is known only by the fields it
is made of, so what is proved here holds for every filesystem.
-/

import CardFormat.Format.Run
import CardFormat.Proofs.Device.Memory
import CardFormat.Proofs.Params.Usable

namespace CardFormat

open Formatting

theorem Formatting.ofAction_of_ok {State Value : Type} {action : EStateM IoError State Value}
    {state next : State} {value : Value} (result : action state = .ok value next)
    (restate : IoError → FormatError) : ofAction restate action state = .ok value next :=
  Action.adaptExcept_of_ok result _

theorem Formatting.ofAction_of_error {State Value : Type} {action : EStateM IoError State Value}
    {state next : State} {error : IoError} (result : action state = .error error next)
    (restate : IoError → FormatError) :
    ofAction restate action state = .error (.refused (restate error)) next :=
  Action.adaptExcept_of_error result _

theorem Formatting.ofAttempt_of_ok {State Value : Type} {attempt : Attempt FormatError Value}
    {value : Value} (result : attempt = .ok value) (state : State) :
    ofAttempt attempt state = .ok value state := by
  rw [result]
  rfl

theorem Formatting.ofAttempt_of_error {State Value : Type} {attempt : Attempt FormatError Value}
    {failure : Failure FormatError} (result : attempt = .error failure) (state : State) :
    ofAttempt attempt state = .error failure state := by
  rw [result]
  rfl

/-- The first bytes of a card are its partition table; the fields of the volume follow. -/
def cardFields (table : PartitionTable) (volume : List Field) : List Field :=
  ⟨0, table.encode⟩ :: volume

theorem laidAll_cardFields (table : PartitionTable) (volume : List Field) :
    Stream.laidAll [] (cardFields table volume) = Stream.laidAll table.encode volume := rfl

theorem stop_cardFields (table : PartitionTable) (volume : List Field) :
    Stream.stop 0 (cardFields table volume) = Stream.stop sectorBytes volume := by
  rw [cardFields, Stream.stop, PartitionTable.length_encode, Nat.zero_add]

theorem rising_cardFields (table : PartitionTable) {volume : List Field} :
    Stream.Rising 0 (cardFields table volume) ↔ Stream.Rising sectorBytes volume := by
  rw [cardFields, Stream.Rising, PartitionTable.length_encode, Nat.zero_add]
  exact and_iff_right (Nat.le_refl 0)

section

variable {Device : Type} [BlockDevice Device] {Holds : Nat → List UInt8 → Device → Prop}
  {most widest limit : Nat} {device : Device} {preparation : Preparation}
  {signature serial : UInt32} {table : PartitionTable} {placements : List Placement}
  {fields : List Field}

/-- The writes that a card takes whose volume is placed in such stretches. -/
def cardWrites (placements : List Placement) : Nat :=
  Writer.placementWrites sectorBytes placements +
    Writer.flushWrites (Stream.stop sectorBytes (placements.map Placement.field))

/-- The partition table stays in the first block and takes no write of its own. What follows
is the volume. -/
theorem writeCard_table (takes : Writer.Takes Holds most widest limit)
    (block : blockBytes ≤ widest) (holds : Holds 0 [] device)
    (tableResult : PartitionTable.ofParams preparation.params signature false = .ok table)
    (fits : sectorBytes ≤ limit) (serial : UInt32) :
    ∃ first, Writer.Carries (Holds 0) table.encode first ∧
      writeCard preparation ⟨.ok signature, serial⟩ (Writer.start device) =
        ((writeVolume (volumePlacements preparation.params preparation.label
            serial)).adaptExcept (restateFailure .filesystemFailed) >>=
          fun _ => ofAction .filesystemFailed Writer.flush >>= fun length =>
            pure (signature, length)) first := by
  have size : (Content.ofList table.encode).size = sectorBytes := by
    rw [Content.size_ofList, table.length_encode]
  have small : sectorBytes ≤ blockBytes := by decide
  obtain ⟨first, firstResult, carries⟩ := (Writer.appendAt_reaches takes block
    (Writer.carries_start holds) (Nat.zero_le most) (Nat.zero_le 0)
    (size.symm ▸ Nat.le_trans small block) (by rw [size, Nat.zero_add]; exact fits)).of_le
      (by rw [size]; exact Nat.zero_le most)
  rw [size, Content.toList_ofList, show Stream.laid [] ⟨0, table.encode⟩ = table.encode from rfl]
    at carries
  refine ⟨first, carries, ?_⟩
  have known : (ofAttempt (PartitionTable.ofParams preparation.params signature false :
      Checked PartitionTable) : Formatting (Writer Device) PartitionTable) (Writer.start device) =
      .ok table (Writer.start device) := by
    rw [tableResult]
    rfl
  rw [writeCard,
    Action.bind_of_ok (show ofResult _ (Writer.start device) = .ok signature _ from rfl),
    Action.bind_of_ok known, Action.bind_of_ok (ofAction_of_ok firstResult _)]

/-- A volume that can be placed is placed behind the partition table. -/
theorem writeCard_begins (takes : Writer.Takes Holds most widest limit)
    (block : blockBytes ≤ widest) (holds : Holds 0 [] device)
    (tableResult : PartitionTable.ofParams preparation.params signature false = .ok table)
    (volumeResult : volumePlacements preparation.params preparation.label serial =
      .ok (placements.map .ok))
    (fits : sectorBytes ≤ limit) :
    ∃ first, Writer.Carries (Holds 0) table.encode first ∧
      writeCard preparation ⟨.ok signature, serial⟩ (Writer.start device) =
        ((Writer.placeAll (placements.map .ok)).adaptExcept (restateFailure .filesystemFailed) >>=
          fun _ => ofAction .filesystemFailed Writer.flush >>= fun length =>
            pure (signature, length)) first := by
  obtain ⟨first, carries, begins⟩ :=
    writeCard_table takes block holds tableResult fits serial
  refine ⟨first, carries, ?_⟩
  rw [begins, volumeResult]
  rfl

/-- A volume that is refused ends the writing of the card. -/
theorem writeCard_refused (takes : Writer.Takes Holds most widest limit)
    (block : blockBytes ≤ widest) (holds : Holds 0 [] device)
    (tableResult : PartitionTable.ofParams preparation.params signature false = .ok table)
    {error : IoError}
    (volumeResult : volumePlacements preparation.params preparation.label serial =
      .error (.refused error))
    (fits : sectorBytes ≤ limit) :
    ∃ final, throughWriter (writeCard preparation ⟨.ok signature, serial⟩) device =
      .error (.refused (.filesystemFailed error)) final := by
  obtain ⟨first, -, begins⟩ :=
    writeCard_table takes block holds tableResult fits serial
  have fails : writeVolume (volumePlacements preparation.params preparation.label serial) first =
      .error (.refused error) first := by
    rw [volumeResult]
    rfl
  refine ⟨first.device, ?_⟩
  rw [throughWriter, begins, Action.bind_of_error (Action.adaptExcept_of_error fails _)]
  rfl

/-- The volume of a card goes behind the partition table. -/
theorem volume_reaches (takes : Writer.Takes Holds most widest limit)
    (block : blockBytes ≤ widest) {first : Writer Device}
    (carries : Writer.Carries (Holds 0) table.encode first)
    (joins : Stream.Joins (placements.map Placement.field) fields)
    (rising : Stream.Rising sectorBytes fields)
    (narrow : ∀ placement ∈ placements, placement.bytes.size ≤ widest)
    (fits : Stream.stop sectorBytes fields ≤ limit) :
    Writer.Reaches Holds most (Writer.placementWrites sectorBytes placements)
      (Stream.laidAll table.encode fields)
      (restateFailure FormatError.filesystemFailed ∘ Failure.refused)
      ((Writer.placeAll (placements.map .ok)).adaptExcept (restateFailure .filesystemFailed)
        first) := by
  rw [← joins.stop_eq, ← table.length_encode] at fits
  rw [← table.length_encode] at rising
  have reached := (Writer.placeAll_reaches takes block carries (Nat.zero_le most)
    (joins.rising _ rising) narrow fits).adaptExcept (restateFailure FormatError.filesystemFailed)
  rw [joins.laid_eq _ rising, Nat.zero_add, table.length_encode] at reached
  exact reached

/-- A card whose volume consists of rising fields up to the end of a sector is written, if the
device takes the writes that it needs. -/
theorem writeCard_eq_ok (takes : Writer.Takes Holds most widest limit)
    (block : blockBytes ≤ widest) (holds : Holds 0 [] device)
    (tableResult : PartitionTable.ofParams preparation.params signature false = .ok table)
    (volumeResult : volumePlacements preparation.params preparation.label serial =
      .ok (placements.map .ok))
    (joins : Stream.Joins (placements.map Placement.field) fields)
    (rising : Stream.Rising sectorBytes fields)
    (narrow : ∀ placement ∈ placements, placement.bytes.size ≤ widest)
    (whole : Stream.stop sectorBytes fields % sectorBytes = 0)
    (fits : Stream.stop sectorBytes fields ≤ limit) (enough : cardWrites placements ≤ most) :
    ∃ final, throughWriter (writeCard preparation ⟨.ok signature, serial⟩) device =
        .ok (signature, Stream.stop sectorBytes fields) final ∧
      Holds (cardWrites placements) (Stream.laidAll table.encode fields) final := by
  obtain ⟨first, firstCarries, begins⟩ := writeCard_begins takes block holds tableResult
    volumeResult (Nat.le_trans (Stream.le_stop rising) fits)
  obtain ⟨second, secondResult, secondCarries⟩ := (volume_reaches takes block firstCarries joins
    rising narrow fits).of_le (Nat.le_trans (Nat.le_add_right _ _) enough)
  have length_eq : (Stream.laidAll table.encode fields).length =
      Stream.stop sectorBytes fields := by
    rw [Stream.length_laidAll (table.length_encode.symm ▸ rising), table.length_encode]
  have padding : Writer.sectorPadding (Stream.laidAll table.encode fields).length = 0 := by
    rw [length_eq]
    exact Writer.sectorPadding_of_whole whole
  rw [cardWrites, joins.stop_eq, ← length_eq] at enough ⊢
  obtain ⟨last, lastResult, lastHolds⟩ := Writer.flush_eq_ok takes block secondCarries enough
    (by rw [padding, length_eq]; exact fits)
  rw [padding, List.replicate_zero, List.append_nil] at lastHolds
  refine ⟨last.device, ?_, lastHolds⟩
  rw [throughWriter, begins, Action.bind_of_ok secondResult,
    Action.bind_of_ok (ofAction_of_ok lastResult _)]
  rfl

/-- If the device stops before, the card is torn: the volume has failed. -/
theorem writeCard_eq_error (takes : Writer.Takes Holds most widest limit)
    (stops : Writer.Stops Holds most) (block : blockBytes ≤ widest) (holds : Holds 0 [] device)
    (tableResult : PartitionTable.ofParams preparation.params signature false = .ok table)
    (volumeResult : volumePlacements preparation.params preparation.label serial =
      .ok (placements.map .ok))
    (joins : Stream.Joins (placements.map Placement.field) fields)
    (rising : Stream.Rising sectorBytes fields)
    (narrow : ∀ placement ∈ placements, placement.bytes.size ≤ widest)
    (fits : Stream.stop sectorBytes fields ≤ limit) (few : most < cardWrites placements) :
    ∃ error final, throughWriter (writeCard preparation ⟨.ok signature, serial⟩) device =
        .error (.refused (.filesystemFailed error)) final ∧
      Writer.Torn Holds most (Stream.laidAll table.encode fields) final := by
  obtain ⟨first, firstCarries, begins⟩ := writeCard_begins takes block holds tableResult
    volumeResult (Nat.le_trans (Stream.le_stop rising) fits)
  have reached := volume_reaches takes block firstCarries joins rising narrow fits
  by_cases within : Writer.placementWrites sectorBytes placements ≤ most
  · obtain ⟨second, secondResult, secondCarries⟩ := reached.of_le within
    rw [cardWrites, joins.stop_eq, ← table.length_encode,
      ← Stream.length_laidAll (table.length_encode.symm ▸ rising), table.length_encode] at few
    obtain ⟨error, last, lastResult, torn⟩ := Writer.flush_eq_error stops secondCarries within few
    refine ⟨error, last.device, ?_, torn⟩
    rw [throughWriter, begins, Action.bind_of_ok secondResult,
      Action.bind_of_error (ofAction_of_error lastResult _)]
  · obtain ⟨error, last, result, torn⟩ := reached.of_lt (Nat.lt_of_not_le within) stops
    refine ⟨error, last.device, ?_, torn⟩
    rw [throughWriter, begins, Action.bind_of_error result]
    rfl

end

/-- On a device in memory the volume ends where its last field was meant to end. What comes
before consists of the partition table and the volume, and what comes behind is as it was. -/
theorem writeCard_memory {device : MemoryDevice} {table : PartitionTable}
    {placements : List Placement} {volume : List Field} {finish : Nat} (preparation : Preparation)
    (signature serial : UInt32) (opened : device.closed = false)
    (unlimited : device.writeLimit = none)
    (room : device.regularFile = true ∨ finish ≤ device.sectors * sectorBytes)
    (tableResult : PartitionTable.ofParams preparation.params signature false = .ok table)
    (volumeResult : volumePlacements preparation.params preparation.label serial =
      .ok (placements.map .ok))
    (joins : Stream.Joins (placements.map Placement.field) (volume ++ [⟨finish, []⟩]))
    (rising : Stream.Rising sectorBytes (volume ++ [⟨finish, []⟩]))
    (whole : finish % sectorBytes = 0) :
    ∃ final image, throughWriter (writeCard preparation ⟨.ok signature, serial⟩) device =
        .ok (signature, finish) final ∧
      device.Written image final ∧ Sector.ConsistsOf image finish (cardFields table volume) := by
  have ends : Stream.stop sectorBytes (volume ++ [⟨finish, []⟩]) = finish :=
    Stream.stop_append_singleton _ _ _
  have free : ∀ bound, device.writeLimit = some bound →
      device.writes.length + cardWrites placements ≤ bound := by
    intro bound limited
    rw [unlimited] at limited
    cases limited
  have narrow : ∀ placement ∈ placements, placement.bytes.size ≤ max blockBytes finish := by
    intro placement member
    have inside := Stream.stop_le_of_rising (joins.rising _ rising) placement.field
      (List.mem_map_of_mem member)
    rw [joins.stop_eq, ends, placement.length_field] at inside
    exact Nat.le_trans (Nat.le_trans (Nat.le_add_left _ _) inside) (Nat.le_max_right _ _)
  obtain ⟨final, result, recorded⟩ := writeCard_eq_ok
    (MemoryDevice.takes_recorded (max blockBytes finish) (fun _ => opened) free room)
    (Nat.le_max_left _ _) (device.recorded_nil _) tableResult volumeResult joins rising narrow
    (ends.symm ▸ whole) (Nat.le_of_eq ends) (Nat.le_refl _)
  rw [ends] at result
  refine ⟨final, _, result, recorded.toWritten, ?_⟩
  have consists := Stream.consistsOf_laidAll Stream.consistsOf_nil
    ((rising_cardFields table).2 rising)
  rw [stop_cardFields, ends, laidAll_cardFields] at consists
  exact Stream.consistsOf_of_nil consists (Nat.le_refl _)

/-- A card of the planned size has room for a volume that ends inside. -/
theorem writeCard_planned {params : Params} {sectors finish : Nat}
    (planned : params.PlannedFor sectors) {device : MemoryDevice} {placements : List Placement}
    {volume : List Field} (size : device.sectors = sectors) (opened : device.closed = false)
    (unlimited : device.writeLimit = none) (label : Label) (signature serial : UInt32)
    (notes : List Warning) (ends : finish ≤ params.totalSectors * params.bytesPerSector)
    (volumeResult : volumePlacements params label serial = .ok (placements.map .ok))
    (joins : Stream.Joins (placements.map Placement.field) (volume ++ [⟨finish, []⟩]))
    (rising : Stream.Rising sectorBytes (volume ++ [⟨finish, []⟩]))
    (whole : finish % sectorBytes = 0) :
    ∃ final table image,
      throughWriter (writeCard ⟨params, label, notes⟩ ⟨.ok signature, serial⟩) device =
        .ok (signature, finish) final ∧
      finish ≤ sectors * sectorBytes ∧
      PartitionTable.ofParams params signature false = .ok table ∧
      Sector.ConsistsOf image finish (cardFields table volume) ∧
      final.data.toList = image ++ device.data.toList.drop finish ∧
      final.sectors = sectors := by
  have inside : finish ≤ device.sectors * sectorBytes := by
    rw [size]
    exact Nat.le_trans ends planned.capacity_le
  obtain ⟨table, tableResult⟩ := planned.usable.partitionTable_eq_ok signature false
  obtain ⟨final, image, result, written, consists⟩ := writeCard_memory ⟨params, label, notes⟩
    signature serial opened unlimited (.inr inside) tableResult volumeResult joins rising whole
  have length_eq := consists.length_eq
  refine ⟨final, table, image, result, size ▸ inside, tableResult, consists, ?_, ?_⟩
  · rw [written.data_eq, length_eq]
  · rw [written.sectors_eq_of_le (by rw [length_eq]; exact inside), size]

end CardFormat
