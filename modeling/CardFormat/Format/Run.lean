/-
This file runs a format: it settles the capacity, plans the parameters, checks the
label, erases the device if that is asked for, writes the partition table and the
filesystem in one stream, and closes the device. A new image is given its size
before anything else is checked. A dry run ends before the device is touched.
-/

import CardFormat.ExFat.Volume
import CardFormat.Fat.Volume
import CardFormat.Format.Options
import CardFormat.Format.Report
import CardFormat.Params.Plan
import CardFormat.Partition.Table
import CardFormat.Writer

namespace CardFormat

/-- An action of a format on a state: it may fault, or end with a format error. -/
abbrev Formatting (State Value : Type) := EStateM (Failure FormatError) State Value

/-- What a format takes from outside: a random disk signature, which may not be had,
and the serial of the volume. -/
structure Sources where
  diskSignature : Except IoError UInt32
  volumeSerial : UInt32

namespace Formatting

variable {State Value : Type}

/-- Ends with an error. -/
def fail (error : FormatError) : Formatting State Value := throw (.refused error)

/-- A computation that leaves the state alone. -/
def ofAttempt (attempt : Attempt FormatError Value) : Formatting State Value := fun state =>
  match attempt with
  | .ok value => .ok value state
  | .error failure => .error failure state

/-- A result that is known. -/
def ofResult (result : Except FormatError Value) : Formatting State Value := fun state =>
  match result with
  | .ok value => .ok value state
  | .error error => .error (.refused error) state

/-- An action on a device or a writer, its errors restated. -/
def ofAction (restate : IoError → FormatError) (action : EStateM IoError State Value) :
    Formatting State Value :=
  action.adaptExcept fun error => .refused (restate error)

end Formatting

open Formatting

section

variable {Device : Type} [BlockDevice Device]

/-- The size of the device in sectors. -/
def deviceSectors : Formatting Device Nat := return BlockDevice.sectorCount (← get)

/-- The capacity to use. A new image takes the requested size; any other device has to
be large enough for it. -/
def resolveCapacity (requested : Option Nat) (dryRun : Bool) : Formatting Device Nat := do
  let device ← deviceSectors
  match requested with
  | none => return device
  | some requested =>
    if requested = 0 ∨ largestCapacity < requested then
      fail (.invalidArgument (.capacityOutOfRange requested))
    else if device = 0 then
      if dryRun then return requested
      else
        ofAction .partitionTableFailed (BlockDevice.truncate requested)
        return requested
    else if device < requested then
      fail (.invalidArgument (.capacityAboveDevice requested device))
    else return requested

/-- What a format is going to do. -/
structure Preparation where
  params : Params
  label : Label
  warnings : List Warning

/-- Plans the parameters for a capacity and checks the label. -/
def prepare (options : FormatOptions) (sectors : Nat) : Attempt FormatError Preparation := do
  let plan ← (plan sectors options.forceFat32 options.bigClusters : Checked Plan)
  match plan.outcome with
  | .error error => Attempt.refuse error
  | .ok params =>
    match Label.accept params.filesystem options.label plan.warnings with
    | .error error _ => Attempt.refuse error
    | .ok label warnings => return ⟨params, label, warnings⟩

/-- The report of a dry run. -/
def Preparation.report (preparation : Preparation) (sectors : Nat) : FormatReport where
  deviceSectors := sectors
  params := preparation.params
  label := preparation.label.text
  volumeSerial := none
  diskSignature := none
  erased := false
  dryRun := true
  bytesWritten := 0
  warnings := preparation.warnings.map Warning.message

/-- Erases the device. A device that cannot be erased is used as it is, with a
warning. -/
def erase (mode : EraseMode) : Formatting Device (Bool × List Warning) := fun device =>
  match (BlockDevice.discard (mode == .secure) : DeviceAction Device Unit) device with
  | .ok _ device => .ok (true, []) device
  | .error error device =>
    if error.kind = .unsupported then .ok (false, [.notErased error]) device
    else .error (.refused (.eraseFailed error)) device

/-- Erases the device if that is asked for. -/
def eraseIfAsked (mode : Option EraseMode) : Formatting Device (Bool × List Warning) :=
  match mode with
  | none => return (false, [])
  | some mode => erase mode

/-- What the volume of a label consists of. -/
def volumePlacements (params : Params) (label : Label) (serial : UInt32) :
    Attempt IoError Placements :=
  match label with
  | .fat label => Fat.placements params label serial
  | .exFat label => ExFat.placements params label serial

/-- Writes the stretches of a volume. -/
def writeVolume (placements : Attempt IoError Placements) :
    EStateM (Failure IoError) (Writer Device) Unit := fun writer =>
  match placements with
  | .error failure => .error failure writer
  | .ok placements => Writer.placeAll placements writer

/-- Restates an error of the volume. -/
def restateFailure (restate : IoError → FormatError) : Failure IoError → Failure FormatError
  | .fault cause => .fault cause
  | .refused error => .refused (restate error)

/-- Writes the partition table and the volume as one stream. The result is the disk
signature and the length of the stream. -/
def writeCard (preparation : Preparation) (sources : Sources) :
    Formatting (Writer Device) (UInt32 × Nat) := do
  let signature ← ofResult (sources.diskSignature.mapError FormatError.partitionTableFailed)
  let table ← ofAttempt (PartitionTable.ofParams preparation.params signature false : Checked _)
  ofAction .partitionTableFailed (Writer.appendAt 0 (.ofList table.encode))
  (writeVolume (volumePlacements preparation.params preparation.label
    sources.volumeSerial)).adaptExcept (restateFailure .filesystemFailed)
  let length ← ofAction .filesystemFailed Writer.flush
  return (signature, length)

/-- Runs an action on a stream to the device. -/
def throughWriter {Value : Type} (action : Formatting (Writer Device) Value) :
    Formatting Device Value := fun device =>
  match action (Writer.start device) with
  | .ok value writer => .ok value writer.device
  | .error failure writer => .error failure writer.device

/-- Formats a device. -/
def format (options : FormatOptions) (sources : Sources) : Formatting Device FormatReport := do
  let sectors ← resolveCapacity options.capacity options.dryRun
  let preparation ← ofAttempt (prepare options sectors)
  if options.dryRun then
    return preparation.report sectors
  let (erased, warnings) ← eraseIfAsked options.erase
  let (signature, length) ← throughWriter (writeCard preparation sources)
  ofAction .closeFailed BlockDevice.close
  return { preparation.report sectors with
    volumeSerial := some sources.volumeSerial
    diskSignature := some signature
    erased := erased
    dryRun := false
    bytesWritten := length
    warnings := (preparation.warnings ++ warnings).map Warning.message }

end

end CardFormat
