/-
This file proves in what order a format does its work on a device in memory that was told to
fail, and which error each failure becomes. A device that is to be erased is discarded once,
before anything is written; if it does not know how, the format goes on as if nothing had been
asked, but for one warning. A write that fails is the last call, and the device is not closed.
When the device comes to be closed, all of the card is on it; the format succeeds if this
succeeds too.
-/

import CardFormat.Proofs.Format.Watched

namespace CardFormat

open Formatting

/-! ### Devices that were told to fail -/

namespace MemoryDevice

/-- The device, if it was open and not told to fail when it is written or closed. -/
def healthy (device : MemoryDevice) : MemoryDevice :=
  { device with closed := false, writeLimit := none, closeFailure := none }

/-- The call that gives a new image its size. -/
def sizing (device : MemoryDevice) (requested : Option Nat) : List CallRecord :=
  match requested with
  | none => []
  | some requested => if device.sectors = 0 then [⟨.truncate requested, none⟩] else []

/-- The call that erases a device, if that is asked for, and how it ends. -/
def erasing (device : MemoryDevice) (mode : Option EraseMode) : List CallRecord :=
  match mode with
  | none => []
  | some mode => [⟨.discard (mode == .secure), device.discardObstacle⟩]

/-- The device is erased if that is asked for. -/
def isErased (device : MemoryDevice) (mode : Option EraseMode) : Bool :=
  mode.isSome && device.discardObstacle.isNone

/-- Erasing the device is not asked for, or succeeds, or the device does not know how. -/
def MayGoOn (device : MemoryDevice) (mode : Option EraseMode) : Prop :=
  ∀ error, mode.isSome → device.discardObstacle = some error → error.kind = .unsupported

/-- The format ends with this on the device if it is healthy, and the device has the same. -/
def HoldsCard (options : FormatOptions) (sources : Sources) (device final : MemoryDevice) : Prop :=
  ∃ report reference, format options sources device.healthy = .ok report reference ∧
    final.data.toList = reference.data.toList ∧ final.sectors = reference.sectors

/-- A device in memory that loses no block holds what was written to its front. -/
theorem withstands_written (origin : MemoryDevice) :
    Writer.Withstands fun lost written (watched : Watched MemoryDevice) =>
      lost = [] → origin.Written written watched.device where
  stored lost written watched next blocks bytes holds length_eq some result := by
    intro nothing
    obtain ⟨free, stored⟩ := proceed_eq_ok_iff.1 (Watched.noting_eq_ok_iff.1 result).1
    rw [stored]
    refine (holds nothing).extend ?_ ?_
    · rw [length_eq, Nat.mul_assoc]
      rfl
    · by_contra ragged
      rw [writeFailure, if_pos ragged] at free
      cases free
  lost lost written watched next blocks bytes error holds length_eq size_eq result := by
    intro nothing
    cases List.append_eq_nil_iff.1 nothing |>.2
  declined lost written watched next blocks bytes error holds result := by
    rw [(proceed_eq_error_iff.1 (Watched.noting_eq_error_iff.1 result).1).2]
    exact holds

variable {device sized : MemoryDevice} {requested : Option Nat} {mode : Option EraseMode}

theorem giveSize_watched (gives : giveSize requested device = .ok () sized) :
    giveSize requested (Watched.of device) = .ok () ⟨sized, device.sizing requested⟩ := by
  by_cases new : device.sectors = 0
  · cases requested with
    | none =>
      cases gives
      rfl
    | some requested =>
      rw [giveSize_of_new (show BlockDevice.sectorCount (Watched.of device) = 0 from new), sizing,
        if_pos new]
      refine ofAction_of_ok ?_ _
      exact Watched.noting_eq_ok_iff.2 ⟨truncate_of_giveSize new gives, rfl⟩
  · rw [giveSize_of_sized new] at gives
    cases gives
    rw [giveSize_of_sized (show BlockDevice.sectorCount (Watched.of device) ≠ 0 from new)]
    cases requested with
    | none => rfl
    | some requested =>
      rw [sizing, if_neg new]
      rfl

/-! ### Erasing -/

theorem discard_watched (obstacle : device.discardObstacle = none) (how : EraseMode)
    (calls : List CallRecord) :
    (BlockDevice.discard (how == .secure) : DeviceAction (Watched MemoryDevice) Unit)
        ⟨device, calls⟩ =
      .ok () ⟨device.discarded (how == .secure), calls ++ device.erasing (some how)⟩ := by
  refine Watched.noting_eq_ok_iff.2 ⟨proceed_eq_ok_iff.2 ⟨obstacle, rfl⟩, ?_⟩
  rw [erasing, obstacle]

theorem discard_watched_of_obstacle {error : IoError}
    (obstacle : device.discardObstacle = some error) (how : EraseMode) (calls : List CallRecord) :
    (BlockDevice.discard (how == .secure) : DeviceAction (Watched MemoryDevice) Unit)
        ⟨device, calls⟩ = .error error ⟨device, calls ++ device.erasing (some how)⟩ := by
  refine Watched.noting_eq_error_iff.2 ⟨proceed_eq_error_iff.2 ⟨obstacle, rfl⟩, ?_⟩
  rw [erasing, obstacle]

/-- What is left when a format goes on after erasing. The healthy device is erased the same
way. -/
theorem eraseIfAsked_watched (goesOn : device.MayGoOn mode) (calls : List CallRecord) :
    ∃ notes emptied,
      eraseIfAsked mode (⟨device, calls⟩ : Watched MemoryDevice) =
        .ok (device.isErased mode, notes) ⟨emptied, calls ++ device.erasing mode⟩ ∧
      eraseIfAsked mode device.healthy = .ok (device.isErased mode, notes) emptied.healthy ∧
      emptied.regularFile = device.regularFile ∧ emptied.sectors = device.sectors := by
  cases mode with
  | none =>
    refine ⟨[], device, ?_, rfl, rfl, rfl⟩
    rw [erasing, List.append_nil]
    rfl
  | some how =>
    cases obstacle : device.discardObstacle with
    | none =>
      have erased : device.isErased (some how) = true := by
        rw [isErased, obstacle]
        rfl
      have healthy : (BlockDevice.discard (how == .secure) : DeviceAction MemoryDevice Unit)
          device.healthy = .ok () (device.discarded (how == .secure)).healthy :=
        proceed_eq_ok_iff.2 ⟨obstacle, rfl⟩
      rw [erased]
      exact ⟨[], _, eraseIfAsked_of_ok (discard_watched obstacle how calls),
        eraseIfAsked_of_ok healthy, rfl, rfl⟩
    | some error =>
      have kept : device.isErased (some how) = false := by
        rw [isErased, obstacle]
        rfl
      have unsupported := goesOn error rfl obstacle
      have healthy : (BlockDevice.discard (how == .secure) : DeviceAction MemoryDevice Unit)
          device.healthy = .error error device.healthy :=
        proceed_eq_error_iff.2 ⟨obstacle, rfl⟩
      rw [kept]
      exact ⟨[.notErased error], device,
        eraseIfAsked_of_unsupported (discard_watched_of_obstacle obstacle how calls) unsupported,
        eraseIfAsked_of_unsupported healthy unsupported, rfl, rfl⟩

end MemoryDevice

/-! ### The course of a format -/

/-- How a format can go whose request is in order. First a new image is given its size and the
device is erased, if that is asked for; then the card is written; then the device is closed. It
ends with the first failure, but for a discard that the device does not know. -/
inductive Course (options : FormatOptions) (sources : Sources) (device sized : MemoryDevice) :
    EStateM.Result (Failure FormatError) (Watched MemoryDevice) FormatReport → Prop
  | notErased {final : Watched MemoryDevice} {error : IoError} (asked : options.erase.isSome)
    (obstacle : sized.discardObstacle = some error) (broken : error.kind ≠ .unsupported)
    (calls_eq : final.calls = device.sizing options.capacity ++ sized.erasing options.erase)
    (unchanged : final.device = sized) :
    Course options sources device sized (.error (.refused (.eraseFailed error)) final)
  | notWritten {final : Watched MemoryDevice} {error : IoError}
    (goesOn : sized.MayGoOn options.erase) (stored : List CallRecord) (start : Nat)
    (bytes : Content)
    (calls_eq : final.calls = device.sizing options.capacity ++ sized.erasing options.erase ++
      stored ++ [⟨.write start bytes, some error⟩])
    (succeeded : ∀ record ∈ stored, record.IsStored) :
    Course options sources device sized (.error (.refused (.filesystemFailed error)) final)
  | notClosed {final : Watched MemoryDevice} {error : IoError}
    (goesOn : sized.MayGoOn options.erase) (stored : List CallRecord)
    (calls_eq : final.calls = device.sizing options.capacity ++ sized.erasing options.erase ++
      stored ++ [⟨.close, some error⟩])
    (succeeded : ∀ record ∈ stored, record.IsStored)
    (complete : device.HoldsCard options sources final.device) :
    Course options sources device sized (.error (.refused (.closeFailed error)) final)
  | finished {final : Watched MemoryDevice} {report : FormatReport}
    (goesOn : sized.MayGoOn options.erase) (stored : List CallRecord)
    (calls_eq : final.calls = device.sizing options.capacity ++ sized.erasing options.erase ++
      stored ++ [⟨.close, none⟩])
    (succeeded : ∀ record ∈ stored, record.IsStored)
    (complete : device.HoldsCard options sources final.device)
    (closed : final.device.closed = true)
    (erased_eq : report.erased = sized.isErased options.erase) :
    Course options sources device sized (.ok report final)

/-- The result of a format, with more warnings in the report. -/
def warned {State : Type} (notes : List Warning) :
    EStateM.Result (Failure FormatError) State FormatReport →
      EStateM.Result (Failure FormatError) State FormatReport
  | .ok report state =>
    .ok { report with warnings := report.warnings ++ notes.map Warning.message } state
  | .error failure state => .error failure state

/-- A format that has erased nothing is the same as if nothing was to be erased, but for what
there is to say about it. -/
theorem carryOut_kept {Device : Type} [BlockDevice Device] {options : FormatOptions}
    {device kept : Device} {notes : List Warning}
    (erases : eraseIfAsked options.erase device = .ok (false, notes) kept) (sources : Sources)
    (sectors : Nat) (preparation : Preparation) :
    carryOut options sources sectors preparation device =
      warned notes (carryOut { options with erase := none } sources sectors preparation kept) := by
  have asks : eraseIfAsked ({ options with erase := none } : FormatOptions).erase kept =
      .ok (false, []) kept := rfl
  cases writes : throughWriter (writeCard preparation sources) kept with
  | error failure final =>
    rw [carryOut_eq_error erases writes, carryOut_eq_error asks writes]
    rfl
  | ok value written =>
    cases closes : (BlockDevice.close : DeviceAction Device Unit) written with
    | error error final =>
      rw [carryOut_of_close_error erases writes closes, carryOut_of_close_error asks writes closes]
      rfl
    | ok done final =>
      rw [carryOut_eq_ok erases writes closes, carryOut_eq_ok asks writes closes]
      refine congrArg (EStateM.Result.ok · final) ?_
      simp only [Preparation.finalReport, List.map_append, List.append_nil]

section

variable {options : FormatOptions} {sectors : Nat} {preparation : Preparation}
  {device sized : MemoryDevice} {signature serial : UInt32}

/-- A healthy device that has its size gets the card and is closed. -/
theorem carryOut_healthy {placements : List Placement} {fields : List Field}
    {table : PartitionTable} {emptied : MemoryDevice} {erased : Bool} {notes : List Warning}
    (volume : VolumeOf preparation.params preparation.label serial placements fields)
    (tableResult : PartitionTable.ofParams preparation.params signature false = .ok table)
    (erases : eraseIfAsked options.erase sized.healthy = .ok (erased, notes) emptied.healthy)
    (room : emptied.regularFile = true ∨
      Stream.stop sectorBytes fields ≤ emptied.sectors * sectorBytes) :
    ∃ report written,
      carryOut options ⟨.ok signature, serial⟩ sectors preparation sized.healthy =
        .ok report { written with closed := true } ∧
      emptied.healthy.Written (Stream.laidAll table.encode fields) written := by
  have unlimited : ∀ bound, emptied.healthy.writeLimit = some bound →
      emptied.healthy.writes.length + cardWrites placements ≤ bound := by
    intro bound impossible
    cases impossible
  obtain ⟨written, result, holds⟩ := writeCard_within volume tableResult
    (show emptied.healthy.closed = false from rfl) unlimited room
  have closes : (BlockDevice.close : DeviceAction MemoryDevice Unit) written =
      .ok () { written with closed := true } := by
    refine MemoryDevice.proceed_eq_ok_iff.2 ⟨?_, rfl⟩
    rw [holds.kept]
    rfl
  exact ⟨_, written, carryOut_eq_ok erases result closes, holds⟩

/-- A format whose request is in order takes one of the courses. -/
theorem carryOut_course (planned : preparation.params.PlannedFor sectors)
    (labelled : Label.forFilesystem preparation.params.filesystem options.label =
      .ok preparation.label)
    (room : sized.regularFile = true ∨ sectors ≤ sized.sectors)
    (reference_eq : format options ⟨.ok signature, serial⟩ device.healthy =
      carryOut options ⟨.ok signature, serial⟩ sectors preparation sized.healthy) :
    Course options ⟨.ok signature, serial⟩ device sized
      (carryOut options ⟨.ok signature, serial⟩ sectors preparation
        ⟨sized, device.sizing options.capacity⟩) := by
  by_cases goesOn : sized.MayGoOn options.erase
  · obtain ⟨notes, emptied, erases, healthy, regular, size⟩ :=
      sized.eraseIfAsked_watched goesOn (device.sizing options.capacity)
    obtain ⟨table, tableResult⟩ := planned.usable.partitionTable_eq_ok signature false
    obtain ⟨placements, fields, volume⟩ := volumeOf_planned planned labelled serial
    have roomy : emptied.regularFile = true ∨
        Stream.stop sectorBytes fields ≤ emptied.sectors * sectorBytes := by
      rw [regular, size]
      refine room.imp_right fun enough => ?_
      exact Nat.le_trans (Nat.le_trans volume.inside planned.capacity_le)
        (Nat.mul_le_mul_right _ enough)
    obtain ⟨report, reference, reported, whole⟩ :=
      carryOut_healthy volume tableResult healthy roomy
    have writing := writeCard_ends (MemoryDevice.withstands_written emptied)
      (show ([] : List Nat) = [] → emptied.Written [] (Watched.device ⟨emptied,
        device.sizing options.capacity ++ sized.erasing options.erase⟩) from
        fun _ => emptied.written_nil) tableResult volume
    generalize outcome : throughWriter (writeCard preparation ⟨.ok signature, serial⟩)
      (⟨emptied, device.sizing options.capacity ++ sized.erasing options.erase⟩ :
        Watched MemoryDevice) = result at writing
    cases writing with
    | failed stored start bytes calls_eq succeeded =>
      rw [carryOut_eq_error erases outcome]
      exact .notWritten goesOn stored start bytes calls_eq succeeded
    | @written next stored holds calls_eq succeeded =>
      have held := holds rfl
      have complete : device.HoldsCard options ⟨.ok signature, serial⟩ next.device :=
        ⟨report, _, reference_eq.trans reported, held.data_eq.trans whole.data_eq.symm,
          held.sectors_eq.trans whole.sectors_eq.symm⟩
      cases failure : next.device.closeFailure with
      | none =>
        have closes : (BlockDevice.close : DeviceAction (Watched MemoryDevice) Unit) next =
            .ok () ⟨{ next.device with closed := true }, next.calls ++ [⟨.close, none⟩]⟩ :=
          Watched.noting_eq_ok_iff.2 ⟨MemoryDevice.proceed_eq_ok_iff.2 ⟨failure, rfl⟩, rfl⟩
        rw [carryOut_eq_ok erases outcome closes]
        refine .finished goesOn stored ?_ succeeded complete rfl rfl
        rw [calls_eq]
      | some error =>
        have closes : (BlockDevice.close : DeviceAction (Watched MemoryDevice) Unit) next =
            .error error ⟨next.device, next.calls ++ [⟨.close, some error⟩]⟩ :=
          Watched.noting_eq_error_iff.2 ⟨MemoryDevice.proceed_eq_error_iff.2 ⟨failure, rfl⟩, rfl⟩
        rw [carryOut_of_close_error erases outcome closes]
        refine .notClosed goesOn stored ?_ succeeded complete
        rw [calls_eq]
  · obtain ⟨error, asked, obstacle, broken⟩ : ∃ error, options.erase.isSome = true ∧
        sized.discardObstacle = some error ∧ error.kind ≠ .unsupported := by
      simpa only [MemoryDevice.MayGoOn, not_forall, exists_prop] using goesOn
    obtain ⟨how, mode⟩ := Option.isSome_iff_exists.1 asked
    have erases := eraseIfAsked_of_error (MemoryDevice.discard_watched_of_obstacle obstacle how
      (device.sizing options.capacity)) broken
    rw [← mode] at erases
    rw [carryOut, Action.bind_of_error erases]
    exact .notErased asked obstacle broken rfl rfl

/-- A format whose request is in order does its work in order, whatever a device in memory was
told to fail. The device is watched, which changes nothing. The result is one of the courses:
the first failure ends the format, and says which stage has failed. A discard that the device
does not know ends nothing: the format goes on as if nothing was to be erased, and adds one
warning. -/
theorem format_in_order (real : options.dryRun = false)
    (settled : resolveCapacity options.capacity false device = .ok sectors sized)
    (prepared : prepare options sectors = .ok preparation) (signature serial : UInt32) :
    let sources : Sources := ⟨.ok signature, serial⟩
    let result := format options sources (Watched.of device)
    viewResult Watched.device result = format options sources device ∧
    Course options sources device sized result ∧
    ∀ error, options.erase.isSome → sized.discardObstacle = some error →
      error.kind = .unsupported →
      format options sources device =
        warned [.notErased error] (format { options with erase := none } sources device) := by
  intro sources result
  obtain ⟨chosen, gives⟩ := chosenCapacity_of_resolved settled
  obtain ⟨planned, labelled, -⟩ := planned_of_prepare prepared
  refine ⟨format_showsAs options sources (Watched.of device), ?_, ?_⟩
  · have healthy : giveSize options.capacity device.healthy = .ok () sized.healthy :=
      @MemoryDevice.giveSize_told device sized MemoryDevice.healthy (fun _ => rfl) (fun _ => rfl)
        (fun _ _ => rfl) _ gives
    have carried : result = carryOut options sources sectors preparation
        ⟨sized, device.sizing options.capacity⟩ :=
      format_of_prepared real
        (show chosenCapacity _ (BlockDevice.sectorCount (Watched.of device)) = _ from chosen)
        (MemoryDevice.giveSize_watched gives) prepared sources
    rw [carried]
    exact carryOut_course planned labelled (MemoryDevice.room_of_giveSize chosen gives)
      (format_of_prepared real
        (show chosenCapacity _ (BlockDevice.sectorCount device.healthy) = _ from chosen) healthy
        prepared sources)
  · intro error asked obstacle unsupported
    obtain ⟨how, mode⟩ := Option.isSome_iff_exists.1 asked
    have discards : (BlockDevice.discard (how == .secure) : DeviceAction MemoryDevice Unit) sized =
        .error error sized := MemoryDevice.proceed_eq_error_iff.2 ⟨obstacle, rfl⟩
    have erases := eraseIfAsked_of_unsupported discards unsupported
    rw [← mode] at erases
    rw [format_of_prepared real chosen gives prepared,
      @format_of_prepared _ _ { options with erase := none } _ _ _ _ real chosen gives prepared]
    exact carryOut_kept erases sources sectors preparation

/-- A card of half a mebibyte is to be erased, and fails to discard: this is the only call, and
the card is as it was. -/
theorem format_in_order_undiscarded :
    let cause : IoError := ⟨.other, "discard failed"⟩
    let device := { MemoryDevice.card 1024 with discardFailure := some cause }
    ∃ final, format { label := some "DATA", erase := some .trim } ⟨.ok 5, 7⟩ (Watched.of device) =
        .error (.refused (.eraseFailed cause)) final ∧
      final.calls = [⟨.discard false, some cause⟩] ∧ final.device = device := by
  intro cause device
  obtain ⟨preparation, prepared, -⟩ := @prepare_eq_ok
    { label := some "DATA", erase := some .trim } 1024 (by decide) (by decide) (by
      intro warnings params planned
      cases params.filesystem with
      | exFat => exact ⟨_, rfl⟩
      | _ => exact ⟨_, rfl⟩)
  obtain ⟨-, course, -⟩ := @format_in_order { label := some "DATA", erase := some .trim } 1024
    preparation device device rfl rfl prepared 5 7
  have stays : ¬device.MayGoOn (some .trim) := fun goesOn => by
    cases goesOn cause rfl rfl
  generalize format { label := some "DATA", erase := some .trim } ⟨.ok 5, 7⟩ (Watched.of device) =
    result at course ⊢
  cases course with
  | @notErased final error asked obstacle broken calls_eq unchanged =>
    cases obstacle
    exact ⟨final, rfl, calls_eq, unchanged⟩
  | notWritten goesOn => exact absurd goesOn stays
  | notClosed goesOn => exact absurd goesOn stays
  | finished goesOn => exact absurd goesOn stays

end

end CardFormat
