/-
This file proves that the boot sectors of FAT volumes lose nothing. Many fields are laid over
a sector one after another, and what stands at a place depends on the variant, but no field
reaches into another. So whoever knows the variant reads every parameter back, and different
parameters make different sectors.
-/

import CardFormat.Proofs.Fat.BootSector
import Mathlib.Data.Set.Operations

namespace CardFormat.Fat

/-! ### Reading all parameters -/

/-- Where a variant has what is not at the same place in all of them: the size of a FAT, the
serial number and the label. -/
structure BootForm where
  fatSectors : BootNumbers → Nat
  serial : Nat
  label : Nat

/-- FAT12 and FAT16. -/
def fixedRootForm : BootForm := ⟨BootNumbers.shortFatSectors, 39, 43⟩

/-- FAT32. -/
def fat32Form : BootForm := ⟨BootNumbers.longFatSectors, 67, 71⟩

/-- Reads the parameters from a boot sector. -/
def BootForm.parameters (form : BootForm) (sector : List UInt8) : BootParameters where
  bytesPerSector := UInt16.ofNat (BootNumbers.read sector).bytesPerSector
  sectorsPerCluster := UInt8.ofNat (BootNumbers.read sector).sectorsPerCluster
  reservedSectors := UInt16.ofNat (BootNumbers.read sector).reservedSectors
  rootEntries := UInt16.ofNat (BootNumbers.read sector).rootEntries
  totalSectors := UInt32.ofNat (BootNumbers.read sector).totalSectors
  media := UInt8.ofNat (BootNumbers.read sector).media
  sectorsPerFat := UInt32.ofNat (form.fatSectors (BootNumbers.read sector))
  sectorsPerTrack := UInt16.ofNat (BootNumbers.read sector).sectorsPerTrack
  heads := UInt16.ofNat (BootNumbers.read sector).heads
  hiddenSectors := UInt32.ofNat (BootNumbers.read sector).hiddenSectors
  serial := UInt32.ofNat (Sector.readNumber sector form.serial 4)
  label := Vector.ofFn fun index => (Sector.read sector form.label labelLimit).getD index 0

/-- What a sector of a form says of its parameters where the variants differ. -/
structure BootForm.Records (form : BootForm) (sector : List UInt8) (parameters : BootParameters) :
    Prop where
  fatSectors : form.fatSectors (BootNumbers.read sector) = parameters.sectorsPerFat.toNat
  serial : Sector.readNumber sector form.serial 4 = parameters.serial.toNat
  label : Sector.read sector form.label labelLimit = parameters.label.toList

theorem ofFn_toList {count : Nat} (bytes : Vector UInt8 count) :
    Vector.ofFn (fun index : Fin count => bytes.toList.getD index 0) = bytes := by
  refine Vector.ext fun index inside => ?_
  rw [Vector.getElem_ofFn, List.getD_eq_getElem?_getD, Vector.getElem?_toList,
    Vector.getElem?_eq_getElem inside, Option.getD_some]

/-- The parameters are read back from numbers that are the parameters. -/
theorem BootForm.parameters_eq {form : BootForm} {sector : List UInt8}
    {parameters : BootParameters} (share : (BootNumbers.read sector).Share parameters)
    (total : (BootNumbers.read sector).totalSectors = parameters.totalSectors.toNat)
    (records : form.Records sector parameters) : form.parameters sector = parameters := by
  simp only [BootForm.parameters, share.bytesPerSector, share.sectorsPerCluster,
    share.reservedSectors, share.rootEntries, total, share.media, records.fatSectors,
    share.sectorsPerTrack, share.heads, share.hiddenSectors, records.serial, records.label,
    ofFn_toList, UInt8.ofNat_toNat, UInt16.ofNat_toNat, UInt32.ofNat_toNat]

/-! ### What a boot sector keeps -/

/-- The sector has the fields and nothing else, no field reaches into another, the mark ends its
first 512 bytes, only zeros follow, and the parameters are read back. -/
structure BootForm.Keeps (form : BootForm) (sector : List UInt8) (parameters : BootParameters)
    (fields : List Field) : Prop extends
    Sector.ConsistsOf sector parameters.bytesPerSector.toNat fields where
  apart : (fields.map Field.place).Pairwise Sector.Apart
  marked : sector[510]? = some 0x55 ∧ sector[511]? = some 0xAA
  rest : sector.drop 512 = List.replicate (parameters.bytesPerSector.toNat - 512) 0
  parameters_eq : form.parameters sector = parameters

theorem marked_of_composed {parameters : BootParameters} {jump : List UInt8} {others : List Field}
    {size : Nat} {sector : List UInt8} (large : 512 ≤ size)
    (composed : Sector.ConsistsOf sector size (commonFields parameters jump ++ others)) :
    sector[510]? = some 0x55 ∧ sector[511]? = some 0xAA := by
  have member : ⟨Sector.signatureOffset, Sector.signature⟩ ∈
      commonFields parameters jump ++ others := by
    refine List.mem_append_left _ ?_
    simp only [commonFields, List.mem_cons, true_or, or_true]
  exact (Sector.marked_iff (composed.length_eq.symm ▸ large)).1 (composed.read_field _ member)

theorem fixedRoot_records {parameters : BootParameters} {type : Vector UInt8 8} {size : Nat}
    {sector : List UInt8} (fits : parameters.sectorsPerFat.toNat ≤ 0xFFFF)
    (composed : Sector.ConsistsOf sector size (fixedRootBootFields parameters type)) :
    fixedRootForm.Records sector parameters := by
  have own : ∀ field ∈ fixedRootFields parameters type,
      field ∈ fixedRootBootFields parameters type := fun _ => List.mem_append_right _
  rw [fixedRootFields] at own
  simp only [List.forall_mem_cons] at own
  obtain ⟨-, -, -, -, serial, label, -⟩ := own
  have stored := composed.read_field _ label
  rw [Vector.length_toList] at stored
  exact ⟨fatSectors_of_fixedRoot fits composed, composed.readNumber_word32 serial, stored⟩

theorem fat32_records {parameters : BootParameters} {size : Nat} {sector : List UInt8}
    (composed : Sector.ConsistsOf sector size (fat32BootFields parameters)) :
    fat32Form.Records sector parameters := by
  have own : ∀ field ∈ fat32Fields parameters, field ∈ fat32BootFields parameters :=
    fun _ => List.mem_append_right _
  rw [fat32Fields] at own
  simp only [List.forall_mem_cons] at own
  obtain ⟨-, -, -, -, -, -, -, -, -, serial, label, -⟩ := own
  have stored := composed.read_field _ label
  rw [Vector.length_toList] at stored
  exact ⟨fatSectors_of_fat32 composed, composed.readNumber_word32 serial, stored⟩

/-- The boot sector of a FAT12 or FAT16 volume keeps its parameters, if its field can count the
sectors of a FAT. -/
theorem fixedRootBootSector_keeps {parameters : BootParameters} (type : Vector UInt8 8)
    (size : 512 ≤ parameters.bytesPerSector.toNat) (fits : parameters.sectorsPerFat ≤ 0xFFFF) :
    ∃ sector, fixedRootBootSector parameters type = .ok sector ∧
      fixedRootForm.Keeps sector parameters (fixedRootBootFields parameters type) := by
  obtain ⟨sector, result, composed⟩ := fixedRootBootSector_composed type size
  have records := fixedRoot_records (UInt32.le_iff_toNat_le.1 fits) composed
  exact ⟨sector, result, composed, apart_fixedRootBootFields parameters type,
    marked_of_composed size composed,
    composed.drop_eq size (inside_fixedRootBootFields parameters type),
    BootForm.parameters_eq (share_of_composed composed) (total_of_fixedRoot size composed) records⟩

/-- The boot sector of a FAT32 volume keeps its parameters. -/
theorem fat32BootSector_keeps {parameters : BootParameters}
    (size : 512 ≤ parameters.bytesPerSector.toNat) :
    ∃ sector, fat32BootSector parameters = .ok sector ∧
      fat32Form.Keeps sector parameters (fat32BootFields parameters) := by
  obtain ⟨sector, result, composed⟩ := fat32BootSector_composed size
  exact ⟨sector, result, composed, apart_fat32BootFields parameters,
    marked_of_composed size composed, composed.drop_eq size (inside_fat32BootFields parameters),
    BootForm.parameters_eq (share_of_composed composed) (total_of_fat32 size composed)
      (fat32_records composed)⟩

/-- The name of the variant is read back as well. -/
theorem BootForm.Keeps.type_eq {parameters : BootParameters} {type : Vector UInt8 8}
    {sector : List UInt8}
    (keeps : fixedRootForm.Keeps sector parameters (fixedRootBootFields parameters type)) :
    Sector.read sector 54 8 = type.toList := by
  have member : ⟨0x36, type.toList⟩ ∈ fixedRootBootFields parameters type := by
    refine List.mem_append_right _ ?_
    simp only [fixedRootFields, List.mem_cons, true_or, or_true]
  have stored := keeps.read_field _ member
  rwa [Vector.length_toList] at stored

/-- Boot sectors keep their parameters, whatever these are, if a sector has 512 bytes, and for
FAT12 and FAT16 if the sectors of a FAT can be counted in 16 bits. So different parameters make
different sectors. -/
theorem bootSectors_round_trip :
    (∀ parameters : BootParameters, 512 ≤ parameters.bytesPerSector.toNat →
      ∃ sector, fat32BootSector parameters = .ok sector ∧
        fat32Form.Keeps sector parameters (fat32BootFields parameters)) ∧
    (∀ (parameters : BootParameters) (type : Vector UInt8 8),
      512 ≤ parameters.bytesPerSector.toNat → parameters.sectorsPerFat ≤ 0xFFFF →
      ∃ sector, fixedRootBootSector parameters type = .ok sector ∧
        fixedRootForm.Keeps sector parameters (fixedRootBootFields parameters type)) ∧
    Set.InjOn fat32BootSector {parameters | 512 ≤ parameters.bytesPerSector.toNat} ∧
    Set.InjOn (fun given : BootParameters × Vector UInt8 8 => fixedRootBootSector given.1 given.2)
      {given | 512 ≤ given.1.bytesPerSector.toNat ∧ given.1.sectorsPerFat ≤ 0xFFFF} := by
  refine ⟨fun _ size => fat32BootSector_keeps size,
    fun _ type size fits => fixedRootBootSector_keeps type size fits, ?_, ?_⟩
  · intro parameters size other otherSize same
    obtain ⟨sector, result, keeps⟩ := fat32BootSector_keeps size
    obtain ⟨otherSector, otherResult, otherKeeps⟩ := fat32BootSector_keeps otherSize
    rw [result, otherResult] at same
    cases same
    exact keeps.parameters_eq.symm.trans otherKeeps.parameters_eq
  · rintro ⟨parameters, type⟩ ⟨size, fits⟩ ⟨other, otherType⟩ ⟨otherSize, otherFits⟩ same
    obtain ⟨sector, result, keeps⟩ := fixedRootBootSector_keeps type size fits
    obtain ⟨otherSector, otherResult, otherKeeps⟩ :=
      fixedRootBootSector_keeps otherType otherSize otherFits
    simp only at same
    rw [result, otherResult] at same
    cases same
    exact Prod.ext (keeps.parameters_eq.symm.trans otherKeeps.parameters_eq)
      (Vector.toList_inj.1 (keeps.type_eq.symm.trans otherKeeps.type_eq))

/-- Parameters at the limits of their fields, with the given total. -/
def limitParameters (totalSectors : UInt32) : BootParameters :=
  ⟨512, 0xFF, 0xFFFF, 0xFFFF, totalSectors, 0xFF, 0xFFFF, 0xFFFF, 0xFFFF, 0xFFFFFFFF, 0xFFFFFFFF,
    Vector.replicate 11 0xFF⟩

/-- Both kinds of boot sectors keep these parameters, with the first total that needs the long
field. The last one that does not makes other sectors. -/
theorem bootSectors_round_trip_limit :
    512 ≤ (limitParameters 0x10000).bytesPerSector.toNat ∧
      (limitParameters 0x10000).sectorsPerFat ≤ 0xFFFF ∧
      (∃ sector, fat32BootSector (limitParameters 0x10000) = .ok sector ∧
        fat32Form.Keeps sector (limitParameters 0x10000)
          (fat32BootFields (limitParameters 0x10000))) ∧
      (∃ sector, fixedRootBootSector (limitParameters 0x10000) (typeName .fat16) = .ok sector ∧
        fixedRootForm.Keeps sector (limitParameters 0x10000)
          (fixedRootBootFields (limitParameters 0x10000) (typeName .fat16))) ∧
      fat32BootSector (limitParameters 0x10000) ≠ fat32BootSector (limitParameters 0xFFFF) ∧
      fixedRootBootSector (limitParameters 0x10000) (typeName .fat16) ≠
        fixedRootBootSector (limitParameters 0xFFFF) (typeName .fat16) := by
  have size (total : UInt32) : 512 ≤ (limitParameters total).bytesPerSector.toNat := by
    show 512 ≤ UInt16.toNat 512
    decide
  have fits (total : UInt32) : (limitParameters total).sectorsPerFat ≤ 0xFFFF := by
    show (0xFFFF : UInt32) ≤ 0xFFFF
    decide
  have differ : limitParameters 0x10000 ≠ limitParameters 0xFFFF := fun same =>
    absurd (congrArg BootParameters.totalSectors same) (by decide)
  obtain ⟨fat32, fixedRoot, fat32Injective, fixedRootInjective⟩ := bootSectors_round_trip
  refine ⟨size _, fits _, fat32 _ (size _), fixedRoot _ _ (size _) (fits _), fun same => ?_,
    fun same => ?_⟩
  · exact differ (fat32Injective (size _) (size _) same)
  · have inside (total : UInt32) : (limitParameters total, typeName .fat16) ∈
        {given : BootParameters × Vector UInt8 8 |
          512 ≤ given.1.bytesPerSector.toNat ∧ given.1.sectorsPerFat ≤ 0xFFFF} :=
      ⟨size total, fits total⟩
    exact differ (congrArg Prod.fst
      (fixedRootInjective (inside 0x10000) (inside 0xFFFF) same))

end CardFormat.Fat
