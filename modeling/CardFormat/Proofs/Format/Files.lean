/-
This file proves that an image in a file and one in memory come to the same. Both start with
the same bytes, and are formatted in the same way. Either both formats succeed, and report the
same, or both fail, with the same error; and then they have the same size, and the same bytes
wherever they are read. Only the words differ in which the two say that they cannot be erased,
and a file that is given a size is filled up with zeros, which the other image only reads.
-/

import CardFormat.Proofs.Device.File
import CardFormat.Proofs.Format.DryRun
import CardFormat.Proofs.Format.Torn

namespace CardFormat

open Formatting

/-- An image in memory with the given bytes; its size is the whole sectors of them. -/
def MemoryDevice.ofContent (content : Content) : MemoryDevice :=
  { image (content.size / sectorBytes) with data := content }

/-- The two images have the same size, and the same bytes wherever they are read. -/
structure SameImage (file : FileDevice) (memory : MemoryDevice) : Prop where
  sectors_eq : file.sectors = memory.sectors
  bytes_eq : ∀ offset length,
    (file.content.window offset length).toList = (memory.bytes offset length).toList

/-- The two formats have come to the same: they report the same, with as many warnings, or they
fail with the same error. -/
inductive Agrees : EStateM.Result (Failure FormatError) FileDevice FormatReport →
    EStateM.Result (Failure FormatError) MemoryDevice FormatReport → Prop
  | ok {report other : FormatReport} {file : FileDevice} {memory : MemoryDevice}
    (report_eq : { other with warnings := report.warnings } = report)
    (warnings_eq : other.warnings.length = report.warnings.length)
    (same : SameImage file memory) : Agrees (.ok report file) (.ok other memory)
  | error {failure : Failure FormatError} {file : FileDevice} {memory : MemoryDevice}
    (same : SameImage file memory) : Agrees (.error failure file) (.error failure memory)

/-- The file is open for writing, and has the bytes of the image in memory and maybe zeros
behind them. -/
structure Twins (file : FileDevice) (memory : MemoryDevice) : Prop where
  writable : file.access = .writing
  opened : file.closed = false
  sectors_eq : file.sectors = memory.sectors
  content_eq : ∃ zeros, file.content.toList = memory.data.toList ++ List.replicate zeros 0
  image : ∃ sectors content, memory = { MemoryDevice.image sectors with data := content }

namespace Twins

variable {file : FileDevice} {memory : MemoryDevice}

theorem sameImage (twins : Twins file memory) : SameImage file memory := by
  obtain ⟨zeros, content_eq⟩ := twins.content_eq
  exact ⟨twins.sectors_eq, Content.readsAs_of_zeros content_eq⟩

/-- What both were opened with. -/
theorem ofContent (content : Content) :
    Twins (.ofContent content .writing) (.ofContent content) where
  writable := rfl
  opened := rfl
  sectors_eq := rfl
  content_eq := ⟨0, (List.append_nil _).symm⟩
  image := ⟨_, content, rfl⟩

/-- Both are the same image after the same bytes were written to their fronts. -/
theorem sameImage_of_written (twins : Twins file memory) {bytes : List UInt8}
    {writtenFile : FileDevice} {writtenMemory : MemoryDevice}
    (fileHolds : file.Written bytes writtenFile)
    (memoryHolds : memory.Written bytes writtenMemory) :
    SameImage writtenFile writtenMemory := by
  obtain ⟨zeros, content_eq⟩ := twins.content_eq
  obtain ⟨sectors, content, rfl⟩ := twins.image
  constructor
  · rw [fileHolds.sectors_eq, memoryHolds.sectors_eq, twins.sectors_eq]
    rfl
  · refine @Content.readsAs_of_zeros _ _ (zeros - (bytes.length - content.size)) ?_
    rw [fileHolds.content_eq, memoryHolds.data_eq, content_eq, List.drop_append,
      List.drop_replicate, ← List.append_assoc, Content.length_toList]

end Twins

/-! ### The stages of both -/

/-- A device that cannot be erased brings a warning if that is asked for. -/
theorem eraseIfAsked_of_unknown {Device : Type} [BlockDevice Device] {device : Device}
    {error : IoError} (unsupported : error.kind = .unsupported)
    (unknown : ∀ secure, (BlockDevice.discard secure : DeviceAction Device Unit) device =
      .error error device) (mode : Option EraseMode) :
    eraseIfAsked mode device =
      .ok (false, (mode.map fun _ => Warning.notErased error).toList) device := by
  cases mode with
  | none => rfl
  | some mode => exact eraseIfAsked_of_unsupported (unknown _) unsupported

/-- Without a signature nothing is written. -/
theorem writeCard_of_signature_error {Device : Type} [BlockDevice Device]
    {preparation : Preparation} {sources : Sources} {error : IoError}
    (missing : sources.diskSignature = .error error) (device : Device) :
    throughWriter (writeCard preparation sources) device =
      .error (.refused (.partitionTableFailed error)) device := by
  have fails : writeCard preparation sources (Writer.start device) =
      .error (.refused (.partitionTableFailed error)) (Writer.start device) := by
    rw [writeCard, missing]
    rfl
  rw [throughWriter, fails]
  rfl

theorem Preparation.length_warnings (preparation : Preparation) (sources : Sources)
    (sectors : Nat) (erased : Bool) (notes : List Warning) (signature : UInt32) (length : Nat) :
    (preparation.finalReport sources sectors erased notes signature length).warnings.length =
      preparation.warnings.length + notes.length := by
  rw [finalReport, List.length_map, List.length_append]

section

variable {options : FormatOptions} {sectors : Nat} {content : Content}

/-- Both are given the same size, if they are new. The file is filled up with zeros. -/
theorem twins_of_chosen (chosen : chosenCapacity options.capacity (content.size / sectorBytes) =
      .ok sectors) :
    ∃ file memory, giveSize options.capacity (FileDevice.ofContent content .writing) =
        .ok () file ∧
      giveSize options.capacity (MemoryDevice.ofContent content) = .ok () memory ∧
      Twins file memory := by
  by_cases new : content.size / sectorBytes = 0
  · cases capacity : options.capacity with
    | none => exact ⟨_, _, rfl, rfl, .ofContent content⟩
    | some requested =>
      rw [capacity] at chosen
      obtain ⟨-, positive, within, -⟩ := chosenCapacity_some_eq_ok_iff.1 chosen
      have inside : requested * sectorBytes < fileOffsetLimit := by
        unfold largestCapacity at within
        unfold sectorBytes fileOffsetLimit
        omega
      have resized := @FileDevice.resized_eq_ok (FileDevice.ofContent content .writing) requested
        rfl rfl inside
      rw [giveSize_of_new (show BlockDevice.sectorCount (FileDevice.ofContent content .writing) = 0
          from new),
        giveSize_of_new (show BlockDevice.sectorCount (MemoryDevice.ofContent content) = 0
          from new)]
      refine ⟨_, (MemoryDevice.ofContent content).truncated requested,
        ofAction_of_ok (FileDevice.goTo_eq_ok resized) _,
        ofAction_of_ok (MemoryDevice.truncate_eq_ok_iff.2 ⟨rfl, rfl⟩) _, ?_⟩
      refine ⟨rfl, rfl, rfl, ⟨requested * sectorBytes - content.size, ?_⟩,
        ⟨requested, content.take (requested * sectorBytes), rfl⟩⟩
      show (content.resize (requested * sectorBytes)).toList =
        (content.take (requested * sectorBytes)).toList ++ _
      rw [Content.toList_resize, Content.toList_take]
  · exact ⟨_, _, giveSize_of_sized new _, giveSize_of_sized new _, .ofContent content⟩

/-- Carried out on both, a format comes to the same. -/
theorem carryOut_agrees {preparation : Preparation} {file : FileDevice} {memory : MemoryDevice}
    (twins : Twins file memory) (prepared : prepare options sectors = .ok preparation)
    (sources : Sources) :
    Agrees (carryOut options sources sectors preparation file)
      (carryOut options sources sectors preparation memory) := by
  obtain ⟨planned, labelled, high⟩ := planned_of_prepare prepared
  have fileErases := eraseIfAsked_of_unknown
    (show IoError.imageWithoutDiscard.kind = .unsupported from rfl)
    (fun secure => show (BlockDevice.discard secure : DeviceAction FileDevice Unit) file =
      .error .imageWithoutDiscard file from rfl) options.erase
  have memoryErases := eraseIfAsked_of_unknown
    (show (⟨.unsupported, "discard not supported"⟩ : IoError).kind = .unsupported from rfl)
    (fun secure => show (BlockDevice.discard secure : DeviceAction MemoryDevice Unit) memory = _ by
      obtain ⟨size, bytes, rfl⟩ := twins.image
      rfl) options.erase
  obtain ⟨signature, serial⟩ := sources
  cases signature with
  | error error =>
    have missing : (⟨.error error, serial⟩ : Sources).diskSignature = .error error := rfl
    rw [carryOut_eq_error fileErases (writeCard_of_signature_error missing file),
      carryOut_eq_error memoryErases (writeCard_of_signature_error missing memory)]
    exact .error twins.sameImage
  | ok signature =>
    obtain ⟨table, tableResult⟩ := planned.usable.partitionTable_eq_ok signature false
    obtain ⟨placements, fields, volume⟩ := volumeOf_planned planned labelled serial
    have stop : Stream.stop sectorBytes fields ≤ sectors * sectorBytes :=
      Nat.le_trans volume.inside planned.capacity_le
    have below : Stream.stop sectorBytes fields < fileOffsetLimit := by
      unfold sectorBytes at stop ⊢
      unfold fileOffsetLimit
      omega
    have takes := FileDevice.takes_written twins.writable twins.opened (cardWrites placements)
      blockBytes below
    obtain ⟨writtenFile, fileWrites, fileHolds⟩ := @writeCard_eq_ok _ _ _ _ _ _ _ _ _ serial _ _ _
      takes (Nat.le_refl _) file.written_nil tableResult volume.placed volume.joins volume.rising
      volume.narrow volume.whole (Nat.le_refl _) (Nat.le_refl _)
    obtain ⟨regular, opened, unlimited, closes⟩ : memory.regularFile = true ∧
        memory.closed = false ∧ memory.writeLimit = none ∧ memory.closeFailure = none := by
      obtain ⟨size, bytes, rfl⟩ := twins.image
      exact ⟨rfl, rfl, rfl, rfl⟩
    have enough : ∀ bound, memory.writeLimit = some bound →
        memory.writes.length + cardWrites placements ≤ bound := by
      intro bound limited
      rw [unlimited] at limited
      cases limited
    obtain ⟨writtenMemory, memoryWrites, memoryHolds⟩ :=
      writeCard_within volume tableResult opened enough (.inl regular)
    have fileCloses : (BlockDevice.close : DeviceAction FileDevice Unit) writtenFile =
        .ok () { writtenFile with closed := true } := FileDevice.goTo_eq_ok rfl
    have memoryCloses : (BlockDevice.close : DeviceAction MemoryDevice Unit) writtenMemory =
        .ok () { writtenMemory with closed := true } := by
      refine MemoryDevice.proceed_eq_ok_iff.2 ⟨?_, rfl⟩
      rw [memoryHolds.kept]
      exact closes
    have same := twins.sameImage_of_written fileHolds memoryHolds
    rw [carryOut_eq_ok fileErases fileWrites fileCloses,
      carryOut_eq_ok memoryErases memoryWrites memoryCloses]
    refine .ok rfl ?_ ⟨same.sectors_eq, same.bytes_eq⟩
    rw [preparation.length_warnings, preparation.length_warnings]
    cases options.erase with
    | none => rfl
    | some mode => rfl

/-- Whatever is asked, and with the same signature and serial, formatting a file that is open for
writing and formatting an image in memory with the same bytes come to the same. -/
theorem format_file_agrees (content : Content) (options : FormatOptions) (sources : Sources) :
    Agrees (format options sources (FileDevice.ofContent content .writing))
      (format options sources (MemoryDevice.ofContent content)) := by
  have twins := Twins.ofContent content
  have fileSize : BlockDevice.sectorCount (FileDevice.ofContent content .writing) =
      content.size / sectorBytes := rfl
  have memorySize : BlockDevice.sectorCount (MemoryDevice.ofContent content) =
      content.size / sectorBytes := rfl
  cases mode : options.dryRun with
  | true =>
    rw [format_dryRun_eq mode, format_dryRun_eq mode, fileSize, memorySize]
    cases chosenCapacity options.capacity (content.size / sectorBytes) with
    | error error => exact .error twins.sameImage
    | ok sectors =>
      simp only
      cases prepare options sectors with
      | error failure => exact .error twins.sameImage
      | ok preparation => exact .ok rfl rfl twins.sameImage
  | false =>
    cases chosen : chosenCapacity options.capacity (content.size / sectorBytes) with
    | error error =>
      rw [format_eq mode, format_eq mode, fileSize, memorySize, chosen]
      exact .error twins.sameImage
    | ok sectors =>
      obtain ⟨file, memory, fileGives, memoryGives, sized⟩ := twins_of_chosen chosen
      cases prepared : prepare options sectors with
      | error failure =>
        rw [format_eq mode, format_eq mode, fileSize, memorySize, chosen]
        simp only
        rw [Action.bind_of_ok fileGives, Action.bind_of_ok memoryGives,
          Action.bind_of_error (ofAttempt_of_error prepared _),
          Action.bind_of_error (ofAttempt_of_error prepared _)]
        exact .error sized.sameImage
      | ok preparation =>
        rw [format_of_prepared mode chosen fileGives prepared,
          format_of_prepared mode chosen memoryGives prepared]
        exact carryOut_agrees sized prepared sources

end

end CardFormat
