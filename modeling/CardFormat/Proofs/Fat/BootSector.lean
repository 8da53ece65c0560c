/-
This file reads boot sectors back. The fields of a boot sector lie apart from each other,
so every sector size has room for them and each is found at its place. A driver does not
know which of two fields holds the number of sectors, of the volume or of a FAT: it takes
the short one unless that is zero. What it finds is what was meant.
-/

import CardFormat.Fat.BootSector
import CardFormat.Proofs.Bytes.Sector

namespace CardFormat.Fat

/-- The numbers in a boot sector, as they stand at their places. -/
structure BootNumbers where
  bytesPerSector : Nat
  sectorsPerCluster : Nat
  reservedSectors : Nat
  fats : Nat
  rootEntries : Nat
  shortTotal : Nat
  media : Nat
  shortFatSectors : Nat
  sectorsPerTrack : Nat
  heads : Nat
  hiddenSectors : Nat
  longTotal : Nat
  longFatSectors : Nat
  deriving Repr, DecidableEq

namespace BootNumbers

/-- Reads the numbers of a boot sector. -/
def read (sector : List UInt8) : BootNumbers where
  bytesPerSector := Sector.readNumber sector 11 2
  sectorsPerCluster := Sector.readNumber sector 13 1
  reservedSectors := Sector.readNumber sector 14 2
  fats := Sector.readNumber sector 16 1
  rootEntries := Sector.readNumber sector 17 2
  shortTotal := Sector.readNumber sector 19 2
  media := Sector.readNumber sector 21 1
  shortFatSectors := Sector.readNumber sector 22 2
  sectorsPerTrack := Sector.readNumber sector 24 2
  heads := Sector.readNumber sector 26 2
  hiddenSectors := Sector.readNumber sector 28 4
  longTotal := Sector.readNumber sector 32 4
  longFatSectors := Sector.readNumber sector 36 4

/-- The sectors of the volume. -/
def totalSectors (numbers : BootNumbers) : Nat :=
  if numbers.shortTotal = 0 then numbers.longTotal else numbers.shortTotal

/-- The sectors of one FAT. -/
def fatSectors (numbers : BootNumbers) : Nat :=
  if numbers.shortFatSectors = 0 then numbers.longFatSectors else numbers.shortFatSectors

/-- The sectors of the fixed root directory. -/
def rootSectors (numbers : BootNumbers) : Nat :=
  (numbers.rootEntries * 32 + (numbers.bytesPerSector - 1)) / numbers.bytesPerSector

/-- The number of clusters. -/
def clusters (numbers : BootNumbers) : Nat :=
  (numbers.totalSectors -
    (numbers.reservedSectors + numbers.fats * numbers.fatSectors + numbers.rootSectors)) /
    numbers.sectorsPerCluster

/-- The filesystem, which follows from the number of clusters alone. -/
def filesystem (numbers : BootNumbers) : Filesystem :=
  if numbers.clusters < 4085 then .fat12
  else if numbers.clusters < 65525 then .fat16
  else .fat32

/-- The numbers that all FAT variants have at the same place are the parameters. -/
structure Share (numbers : BootNumbers) (parameters : BootParameters) : Prop where
  bytesPerSector : numbers.bytesPerSector = parameters.bytesPerSector.toNat
  sectorsPerCluster : numbers.sectorsPerCluster = parameters.sectorsPerCluster.toNat
  reservedSectors : numbers.reservedSectors = parameters.reservedSectors.toNat
  fats : numbers.fats = 2
  rootEntries : numbers.rootEntries = parameters.rootEntries.toNat
  media : numbers.media = parameters.media.toNat
  sectorsPerTrack : numbers.sectorsPerTrack = parameters.sectorsPerTrack.toNat
  heads : numbers.heads = parameters.heads.toNat
  hiddenSectors : numbers.hiddenSectors = parameters.hiddenSectors.toNat

/-- The numbers are the parameters. -/
structure Describe (numbers : BootNumbers) (parameters : BootParameters) : Prop
    extends numbers.Share parameters where
  totalSectors : numbers.totalSectors = parameters.totalSectors.toNat
  fatSectors : numbers.fatSectors = parameters.sectorsPerFat.toNat

end BootNumbers

/-! ### The places of the fields -/

/-- The places of the fields that all FAT variants share. -/
def commonPlaces : List (Nat × Nat) :=
  [(0, 3), (3, 8), (11, 2), (13, 1), (14, 2), (16, 1), (17, 2), (21, 1), (24, 2), (26, 2), (28, 4),
    (510, 2)]

/-- The places of the fields of FAT12 and FAT16, next to that of the total. -/
def fixedRootPlaces : List (Nat × Nat) :=
  [(22, 2), (36, 1), (38, 1), (39, 4), (43, 11), (54, 8), (62, 448)]

/-- The places of the fields of FAT32. -/
def fat32Places : List (Nat × Nat) :=
  [(32, 4), (36, 4), (40, 2), (42, 2), (44, 4), (48, 2), (50, 2), (64, 1), (66, 1), (67, 4), (71, 11),
    (82, 8), (90, 420)]

/-- The fields of the boot sector of a FAT12 or FAT16 volume. -/
def fixedRootBootFields (parameters : BootParameters) (type : Vector UInt8 8) : List Field :=
  commonFields parameters [0xEB, 0x3C, 0x90] ++ fixedRootFields parameters type

/-- The fields of the boot sector of a FAT32 volume. -/
def fat32BootFields (parameters : BootParameters) : List Field :=
  commonFields parameters [0xEB, 0x58, 0x90] ++ fat32Fields parameters

theorem place_commonFields (parameters : BootParameters) {jump : List UInt8}
    (jumpLength : jump.length = 3) :
    (commonFields parameters jump).map Field.place = commonPlaces := by
  simp only [commonFields, List.map_cons, List.map_nil, Field.place, LittleEndian.length_word16,
    LittleEndian.length_word32, jumpLength]
  rfl

theorem place_totalField (total : UInt32) :
    (totalField total).place = if total ≤ 0xFFFF then (19, 2) else (32, 4) := by
  unfold totalField
  split
  · simp only [Field.place, LittleEndian.length_word16]
  · simp only [Field.place, LittleEndian.length_word32]

theorem place_fixedRootBootFields (parameters : BootParameters) (type : Vector UInt8 8) :
    (fixedRootBootFields parameters type).map Field.place =
      commonPlaces ++ (if parameters.totalSectors ≤ 0xFFFF then (19, 2) else (32, 4)) ::
        fixedRootPlaces := by
  rw [fixedRootBootFields, List.map_append, place_commonFields parameters rfl,
    ← place_totalField]
  simp only [fixedRootFields, List.map_cons, List.map_nil, Field.place, LittleEndian.length_word16,
    LittleEndian.length_word32, Vector.length_toList, List.length_replicate]
  rfl

theorem place_fat32BootFields (parameters : BootParameters) :
    (fat32BootFields parameters).map Field.place = commonPlaces ++ fat32Places := by
  rw [fat32BootFields, List.map_append, place_commonFields parameters rfl]
  simp only [fat32Fields, List.map_cons, List.map_nil, Field.place, LittleEndian.length_word16,
    LittleEndian.length_word32, Vector.length_toList, List.length_replicate]
  rfl

theorem apart_fixedRootBootFields (parameters : BootParameters) (type : Vector UInt8 8) :
    ((fixedRootBootFields parameters type).map Field.place).Pairwise Sector.Apart := by
  rw [place_fixedRootBootFields]
  split <;> decide

theorem apart_fat32BootFields (parameters : BootParameters) :
    ((fat32BootFields parameters).map Field.place).Pairwise Sector.Apart := by
  rw [place_fat32BootFields]
  decide

theorem inside_fixedRootBootFields (parameters : BootParameters) (type : Vector UInt8 8) :
    ∀ place ∈ (fixedRootBootFields parameters type).map Field.place, place.1 + place.2 ≤ 512 := by
  rw [place_fixedRootBootFields]
  split <;> decide

theorem inside_fat32BootFields (parameters : BootParameters) :
    ∀ place ∈ (fat32BootFields parameters).map Field.place, place.1 + place.2 ≤ 512 := by
  rw [place_fat32BootFields]
  decide

/-! ### Composing boot sectors -/

/-- A sector has room for the fields of FAT12 and FAT16. -/
theorem fixedRootBootSector_composed {parameters : BootParameters} (type : Vector UInt8 8)
    (size : 512 ≤ parameters.bytesPerSector.toNat) :
    ∃ sector, fixedRootBootSector parameters type = .ok sector ∧
      Sector.ConsistsOf sector parameters.bytesPerSector.toNat
        (fixedRootBootFields parameters type) :=
  Sector.compose_eq_ok _ rfl
    (Sector.inside_sector size (inside_fixedRootBootFields parameters type))
    (apart_fixedRootBootFields parameters type)

/-- A sector has room for the fields of FAT32. -/
theorem fat32BootSector_composed {parameters : BootParameters}
    (size : 512 ≤ parameters.bytesPerSector.toNat) :
    ∃ sector, fat32BootSector parameters = .ok sector ∧
      Sector.ConsistsOf sector parameters.bytesPerSector.toNat (fat32BootFields parameters) :=
  Sector.compose_eq_ok _ rfl (Sector.inside_sector size (inside_fat32BootFields parameters))
    (apart_fat32BootFields parameters)

section Composed

variable {parameters : BootParameters} {type : Vector UInt8 8} {size : Nat} {sector : List UInt8}

/-- What the common fields of a composed boot sector say, whatever follows them. -/
theorem share_of_composed {jump : List UInt8} {others : List Field}
    (composed : Sector.ConsistsOf sector size (commonFields parameters jump ++ others)) :
    (BootNumbers.read sector).Share parameters := by
  have common : ∀ field ∈ commonFields parameters jump,
      field ∈ commonFields parameters jump ++ others := fun _ => List.mem_append_left others
  rw [commonFields] at common
  simp only [List.forall_mem_cons] at common
  obtain ⟨-, -, bytes, cluster, reserved, fats, root, media, track, heads, hidden, -⟩ := common
  exact {
    bytesPerSector := composed.readNumber_word16 bytes
    sectorsPerCluster := composed.readNumber_eq cluster rfl
    reservedSectors := composed.readNumber_word16 reserved
    fats := composed.readNumber_eq fats rfl
    rootEntries := composed.readNumber_word16 root
    media := composed.readNumber_eq media rfl
    sectorsPerTrack := composed.readNumber_word16 track
    heads := composed.readNumber_word16 heads
    hiddenSectors := composed.readNumber_word32 hidden }

/-- FAT32 has its total in the long field. -/
theorem total_of_fat32 (large : 512 ≤ size)
    (composed : Sector.ConsistsOf sector size (fat32BootFields parameters)) :
    (BootNumbers.read sector).totalSectors = parameters.totalSectors.toNat := by
  have member : ⟨0x20, LittleEndian.word32 parameters.totalSectors⟩ ∈ fat32BootFields parameters :=
    List.mem_append_right _ List.mem_cons_self
  have nothing : Sector.readNumber sector 19 2 = 0 := by
    refine composed.readNumber_rest (by omega) ?_
    rw [place_fat32BootFields]
    decide
  rw [BootNumbers.totalSectors, BootNumbers.read, if_pos nothing,
    composed.readNumber_word32 member]

theorem fatSectors_of_fat32
    (composed : Sector.ConsistsOf sector size (fat32BootFields parameters)) :
    (BootNumbers.read sector).longFatSectors = parameters.sectorsPerFat.toNat :=
  composed.readNumber_word32 (List.mem_append_right _ (List.mem_cons_of_mem _ List.mem_cons_self))

/-- A total is found whichever of its fields it is in. -/
theorem total_of_fixedRoot (large : 512 ≤ size)
    (composed : Sector.ConsistsOf sector size (fixedRootBootFields parameters type)) :
    (BootNumbers.read sector).totalSectors = parameters.totalSectors.toNat := by
  have member : totalField parameters.totalSectors ∈ fixedRootBootFields parameters type :=
    List.mem_append_right _ List.mem_cons_self
  have places := place_fixedRootBootFields parameters type
  rw [totalField] at member
  rw [BootNumbers.totalSectors, BootNumbers.read]
  by_cases short : parameters.totalSectors ≤ 0xFFFF
  · rw [if_pos short] at places member
    have fits : parameters.totalSectors.toNat ≤ 0xFFFF := UInt32.le_iff_toNat_le.1 short
    have found : Sector.readNumber sector 19 2 = parameters.totalSectors.toNat := by
      rw [composed.readNumber_word16 member, UInt32.toNat_toUInt16]
      omega
    have nothing : Sector.readNumber sector 32 4 = 0 := by
      refine composed.readNumber_rest (by omega) ?_
      rw [places]
      decide
    rw [found, nothing]
    split
    · rename_i zero
      exact zero.symm
    · rfl
  · rw [if_neg short] at places member
    have nothing : Sector.readNumber sector 19 2 = 0 := by
      refine composed.readNumber_rest (by omega) ?_
      rw [places]
      decide
    rw [if_pos nothing, composed.readNumber_word32 member]

/-- The size of a FAT is found if its field can count it. -/
theorem fatSectors_of_fixedRoot (fits : parameters.sectorsPerFat.toNat ≤ 0xFFFF)
    (composed : Sector.ConsistsOf sector size (fixedRootBootFields parameters type)) :
    (BootNumbers.read sector).shortFatSectors = parameters.sectorsPerFat.toNat := by
  have member : ⟨0x16, LittleEndian.word16 parameters.sectorsPerFat.toUInt16⟩ ∈
      fixedRootBootFields parameters type :=
    List.mem_append_right _ (List.mem_cons_of_mem _ List.mem_cons_self)
  have found := composed.readNumber_word16 member
  rw [UInt32.toNat_toUInt16, Nat.mod_eq_of_lt (by omega)] at found
  exact found

end Composed

/-- The boot sector of a FAT32 volume says what it was given. -/
theorem fat32BootSector_eq_ok {parameters : BootParameters}
    (size : 512 ≤ parameters.bytesPerSector.toNat) :
    ∃ sector, fat32BootSector parameters = .ok sector ∧
      sector.length = parameters.bytesPerSector.toNat ∧
      (BootNumbers.read sector).Describe parameters := by
  obtain ⟨sector, result, composed⟩ := fat32BootSector_composed size
  -- The short field is not written at all.
  have nothing : (BootNumbers.read sector).shortFatSectors = 0 := by
    refine composed.readNumber_rest (by omega) ?_
    rw [place_fat32BootFields]
    decide
  refine ⟨sector, result, composed.length_eq, share_of_composed composed,
    total_of_fat32 size composed, ?_⟩
  rw [BootNumbers.fatSectors, if_pos nothing, fatSectors_of_fat32 composed]

/-- The boot sector of a FAT12 or FAT16 volume says what it was given, if a FAT has sectors
and no more than its field can count. -/
theorem fixedRootBootSector_eq_ok {parameters : BootParameters} (type : Vector UInt8 8)
    (size : 512 ≤ parameters.bytesPerSector.toNat)
    (positive : 0 < parameters.sectorsPerFat.toNat)
    (fits : parameters.sectorsPerFat.toNat ≤ 0xFFFF) :
    ∃ sector, fixedRootBootSector parameters type = .ok sector ∧
      sector.length = parameters.bytesPerSector.toNat ∧
      (BootNumbers.read sector).Describe parameters := by
  obtain ⟨sector, result, composed⟩ := fixedRootBootSector_composed type size
  refine ⟨sector, result, composed.length_eq, share_of_composed composed,
    total_of_fixedRoot size composed, ?_⟩
  rw [BootNumbers.fatSectors, fatSectors_of_fixedRoot fits composed]
  exact if_neg (Nat.ne_of_gt positive)

/-! ### The other sectors of a FAT32 boot record -/

/-- The places of the fields of the sector with the free cluster count. -/
def infoPlaces : List (Nat × Nat) := [(0, 4), (484, 4), (488, 4), (492, 4), (508, 4)]

theorem infoSector_eq_ok {bytesPerSector : UInt16} (size : 512 ≤ bytesPerSector.toNat)
    (freeCount nextFree : UInt32) :
    ∃ sector, infoSector bytesPerSector freeCount nextFree = .ok sector ∧
      sector.length = bytesPerSector.toNat := by
  rw [infoSector]
  refine Exists.imp (fun sector composed => ⟨composed.1, composed.2.length_eq⟩)
    (Sector.compose_eq_ok infoPlaces rfl (Sector.inside_sector size ?_) ?_)
  · decide
  · decide

theorem sentinelSector_eq_ok {bytesPerSector : UInt16} (size : 512 ≤ bytesPerSector.toNat) :
    ∃ sector, sentinelSector bytesPerSector = .ok sector ∧
      sector.length = bytesPerSector.toNat := by
  rw [sentinelSector]
  refine Exists.imp (fun sector composed => ⟨composed.1, composed.2.length_eq⟩)
    (Sector.compose_eq_ok [(510, 2)] rfl (Sector.inside_sector size ?_) ?_)
  · decide
  · decide

end CardFormat.Fat
