/-
This file compares the addresses by cylinder, head and sector in a partition entry with the
block numbers beside them. Where the type of a partition says that its addresses are meant
to be used, its first block always has an address of its own under the geometry of the
card. The last block has one unless the card outgrows its geometry by some sectors; then
the entry has the address that stands for none, under a type that promises one.
-/

import CardFormat.Proofs.Fat.Driver
import CardFormat.Proofs.Params.Geometry
import CardFormat.Proofs.Partition.Entry

namespace CardFormat

/-! ### Cards whose partition is addressed -/

/-- Only where FAT12 is usual does the number of clusters decide on the filesystem. -/
theorem Division.filesystem_of_params {division : Division} {geometry : Nat × Nat}
    {params : Params} {warnings : List Warning}
    (result : division.params geometry = .ok (params, warnings))
    (wide : division.filesystem ≠ .fat12) : params.filesystem = division.filesystem := by
  unfold Division.params at result
  split at result
  · rename_i kind
    obtain ⟨area, -, equal⟩ := Checked.bind_eq_ok_iff.1 result
    cases equal
    exact kind.symm
  · rename_i kind
    obtain ⟨⟨task, area⟩, -, equal⟩ := Checked.bind_eq_ok_iff.1 result
    cases equal
    exact kind.symm
  · rename_i notExFat notFat32
    have kind : division.filesystem = .fat16 := by
      cases kind : division.filesystem with
      | fat12 => exact absurd kind wide
      | fat16 => rfl
      | fat32 => exact absurd kind notFat32
      | exFat => exact absurd kind notExFat
    obtain ⟨⟨filesystem, area⟩, found, equal⟩ := Checked.bind_eq_ok_iff.1 result
    cases equal
    rw [smallArea, if_pos kind] at found
    obtain ⟨fixed, -, same⟩ := Checked.bind_eq_ok_iff.1 found
    cases same
    exact kind.symm

/-- FAT32 is addressed as far as any geometry reaches, and exFAT nowhere. -/
theorem addressed_of_partitionType {filesystem : Filesystem} {partitionBlocks totalBlocks : Nat}
    {type : UInt8} (result : partitionType filesystem partitionBlocks totalBlocks = .ok type)
    (addressed : isAddressedType type = true) :
    filesystem ≠ .exFat ∧ (filesystem = .fat32 → totalBlocks ≤ addressableBlocks) := by
  cases filesystem with
  | fat12 => exact ⟨nofun, nofun⟩
  | fat16 => exact ⟨nofun, nofun⟩
  | exFat =>
    cases result
    exact absurd addressed (by decide)
  | fat32 =>
    refine ⟨nofun, fun _ => ?_⟩
    obtain ⟨last, lastResult, equal⟩ := Checked.bind_eq_ok_iff.1 result
    have before := Checked.subtract_eq_ok_iff.1 lastResult
    by_cases within : last < addressableBlocks
    · omega
    · rw [if_neg within] at equal
      cases equal
      exact absurd addressed (by decide)

/-- Cards with an addressed partition are no larger than any geometry reaches, and keep
512-byte sectors. Those above 128 MiB have thousands of clusters. -/
theorem Divided.of_addressed {sectors : Nat} {division : Division} {params : Params}
    {others : List Warning} (divided : Divided sectors division)
    (described : division.params (geometryFor sectors) = .ok (params, others))
    (planned : division.Planned (geometryFor sectors) params)
    (covered : sectors < params.blocks + params.sectorRatio) {type : UInt8}
    (typed : partitionType params.filesystem (params.blocks - params.firstBlock) params.blocks =
      .ok type) (addressed : isAddressedType type = true) :
    params.bytesPerSector = 512 ∧ params.totalSectors = sectors ∧ sectors ≤ addressableBlocks ∧
      (2 ^ 17 < sectors → params.filesystem ≠ .fat12) := by
  obtain ⟨notExFat, fat32⟩ := addressed_of_partitionType typed addressed
  have sector := planned.sector_eq
  have total := planned.total_eq
  have kept := Division.filesystem_of_params described
  have stays : division.filesystem ≠ .fat12 → 2 ^ 17 < sectors → params.filesystem ≠ .fat12 :=
    fun wide _ => (kept wide).trans_ne wide
  have limit : addressableBlocks = 16450560 := rfl
  cases divided with
  | smallest low high => exact ⟨sector, total, by omega, by omega⟩
  | small low high => exact ⟨sector, total, by omega, by omega⟩
  | quarterGibibyte low high => exact ⟨sector, total, by omega, stays (by simp)⟩
  | oneGibibyte low high => exact ⟨sector, total, by omega, stays (by simp)⟩
  | twoGibibytes low high => exact ⟨sector, total, by omega, stays (by simp)⟩
  | large low high =>
    have within := fat32 (kept (by simp))
    rw [Params.blocks, Params.sectorRatio, sector, total] at within
    exact ⟨sector, total, by simpa [sectorBytes] using within, stays (by simp)⟩
  | limited low high unit =>
    have within := fat32 (kept (by simp))
    rw [Params.sectorRatio, sector] at covered
    simp only [sectorBytes] at covered
    omega
  | @enlarged ratio power low high warnings =>
    have within := fat32 (kept (by simp))
    rw [Params.sectorRatio, sector] at covered
    simp only [List.mem_cons, List.not_mem_nil, or_false, sectorBytes] at power covered
    omega
  | huge power low high => exact absurd (kept (by simp)) notExFat

theorem Params.Valid.fat_of_ne {params : Params} (valid : params.Valid)
    (notExFat : params.filesystem ≠ .exFat) : ∃ area, params.layout = .fat area := by
  have regions := valid.layout
  cases layout : params.layout with
  | fat area => exact ⟨area, rfl⟩
  | exFat area =>
    rw [layout] at regions
    exact absurd regions.isExFat notExFat

/-- A partition with thousands of clusters begins at least as many sectors before the end. -/
theorem Params.Valid.firstSector_add {params : Params} {area : FatArea} (valid : params.Valid)
    (layout : params.layout = .fat area) (wide : params.filesystem ≠ .fat12) :
    params.partitionStart + 4087 ≤ params.totalSectors := by
  have regions := valid.layout
  have cluster := pos_of_power valid.cluster_power
  rw [layout] at regions
  have clusters := regions.clusters_ge
  have isFat := regions.isFat
  have product := Nat.le_mul_of_pos_right area.clusters cluster
  have finish := regions.end_le
  have least : 4087 ≤ (clusterRange params.filesystem).1 := by
    cases kind : params.filesystem with
    | fat12 => exact absurd kind wide
    | fat16 => decide
    | fat32 => decide
    | exFat => exact absurd kind isFat
  rw [partitionStart, layout]
  simp only
  omega

/-- An addressed partition begins within reach of the geometry, and ends there unless the
card outgrows it. -/
theorem addressed_reach {sectors : Nat} {forceFat32 bigClusters : Bool} {params : Params}
    {warnings : List Warning}
    (planned : plan sectors forceFat32 bigClusters = .ok ⟨warnings, .ok params⟩)
    {entry : PartitionEntry} {bootable : Bool} (describes : entry.Describes params bootable)
    (addressed : isAddressedType entry.type = true) :
    params.firstBlock < DiskAddress.reach params.heads params.sectorsPerTrack ∧
      (params.blocks - 1 < DiskAddress.reach params.heads params.sectorsPerTrack ↔
        ¬OutgrowsGeometry sectors) := by
  have facts := plannedFor_of_plan planned
  obtain ⟨division, others, divided, described, solved⟩ := divided_of_plan planned
  obtain ⟨sector, total, most, wide⟩ := divided.of_addressed described solved facts.blocks_le.2
    describes.type_eq addressed
  have ratio : params.sectorRatio = 1 := by
    rw [Params.sectorRatio, sector]
    rfl
  have blocks : params.blocks = sectors := by rw [Params.blocks, ratio, Nat.mul_one, total]
  have start : params.firstBlock = params.partitionStart := by
    rw [Params.firstBlock, ratio, Nat.mul_one]
  have inside := facts.usable.firstBlock_lt
  have geometry : DiskAddress.reach params.heads params.sectorsPerTrack =
      geometryReach sectors := by
    rw [solved.heads_eq, solved.track_eq]
    rfl
  rw [geometry]
  by_cases outgrows : OutgrowsGeometry sectors
  · -- The card has only a few sectors too many, and its partition begins long before them.
    have large : 128 ≤ sectors / 2048 :=
      (by decide : ∀ mebibytes ∈ filledMebibytes, 128 ≤ mebibytes) _ outgrows.1
    have beyond := geometryReach_lt outgrows
    have close := le_geometryReach_add most
    obtain ⟨notExFat, -⟩ := addressed_of_partitionType describes.type_eq addressed
    obtain ⟨area, layout⟩ := facts.valid.fat_of_ne notExFat
    have clusters := facts.valid.firstSector_add layout (wide (by omega))
    refine ⟨by omega, iff_of_false (by omega) (not_not_intro outgrows)⟩
  · have reached := le_geometryReach most outgrows
    exact ⟨by omega, iff_of_true (by omega) outgrows⟩

/-! ### The addresses of an entry -/

/-- A planned card has a partition entry. If its type says that the addresses are meant to be
used, they are under the geometry that the boot sector records. The address of the first
block is right. That of the last block is right unless the card outgrows its geometry; then
it is the one that stands for no block. -/
theorem addresses_locate {sectors : Nat} {forceFat32 bigClusters : Bool} {params : Params}
    {warnings : List Warning}
    (planned : plan sectors forceFat32 bigClusters = .ok ⟨warnings, .ok params⟩)
    (bootable : Bool) :
    ∃ entry, PartitionEntry.ofParams params bootable = .ok entry ∧
      (isAddressedType entry.type = true →
        entry.startAddress.Locates params.heads params.sectorsPerTrack entry.startBlock.toNat ∧
        (¬OutgrowsGeometry sectors →
          entry.endAddress.Locates params.heads params.sectorsPerTrack
            (entry.startBlock.toNat + entry.blockCount.toNat - 1)) ∧
        (OutgrowsGeometry sectors → entry.endAddress = .last) ∧
        ∀ (label : FatLabel) (serial : UInt32), ∃ record rest numbers,
          Fat.placements params label serial = .ok (.ok record :: rest) ∧
          numbers = Fat.BootNumbers.read (record.bytes.toList.take params.bytesPerSector) ∧
          numbers.heads = params.heads ∧ numbers.sectorsPerTrack = params.sectorsPerTrack) := by
  have facts := plannedFor_of_plan planned
  have usable := facts.usable
  obtain ⟨entry, made, describes⟩ := usable.entry_eq_ok bootable
  refine ⟨entry, made, fun addressed => ?_⟩
  obtain ⟨startKept, countKept⟩ := facts.blocks_kept describes
  obtain ⟨startReached, endReached⟩ := addressed_reach planned describes addressed
  have inside := usable.firstBlock_lt
  have last : entry.startBlock.toNat + entry.blockCount.toNat - 1 = params.blocks - 1 := by
    rw [startKept, countKept, Nat.add_sub_cancel' (Nat.le_of_lt inside)]
  have heads : params.heads ≤ 256 := Nat.le_trans usable.heads_le (by decide)
  refine ⟨?_, ?_, ?_, ?_⟩
  · obtain ⟨address, result, locates⟩ :=
      DiskAddress.ofBlock_of_lt_reach heads usable.track_le startReached
    rw [describes.startAddress_eq] at result
    cases result
    rw [startKept]
    exact locates
  · intro fits
    obtain ⟨address, result, locates⟩ :=
      DiskAddress.ofBlock_of_lt_reach heads usable.track_le (endReached.2 fits)
    rw [describes.endAddress_eq] at result
    cases result
    rw [last]
    exact locates
  · intro outgrows
    have beyond := Nat.le_of_not_lt fun within => endReached.1 within outgrows
    have result := DiskAddress.ofBlock_of_reach_le
      (Nat.mul_pos usable.heads_pos usable.track_pos) beyond
    rw [describes.endAddress_eq] at result
    exact Except.ok.inj result
  · intro label serial
    obtain ⟨notExFat, -⟩ := addressed_of_partitionType describes.type_eq addressed
    obtain ⟨area, layout⟩ := facts.valid.fat_of_ne notExFat
    obtain ⟨record, rest, placed, -, recorded⟩ :=
      Fat.placements_begin (Fat.fits_of_planned facts layout) label serial
    exact ⟨record, rest, _, placed, rfl, recorded.heads, recorded.sectorsPerTrack⟩

/-- The addresses of a card of half a mebibyte are those of blocks 29 and 1023. -/
theorem addresses_locate_halfMebibyte :
    ∃ entry, PartitionEntry.ofParams
        ⟨1024, 512, 16, 16, .fat12, 2, 16, .fat ⟨1, 1, 35, 29, 60⟩⟩ false = .ok entry ∧
      entry.startAddress.Locates 2 16 29 ∧ entry.endAddress.Locates 2 16 1023 := by
  obtain ⟨entry, made, locate⟩ := addresses_locate plan_halfMebibyte false
  refine ⟨entry, made, ?_⟩
  cases made
  obtain ⟨first, last, -⟩ := locate rfl
  exact ⟨first, last (by decide)⟩

set_option maxRecDepth 20000 in
/-- The plan for the smallest card that outgrows its geometry. -/
theorem plan_above128Mebibytes : plan 262145 false false =
    .ok ⟨[], .ok ⟨262145, 512, 32, 64, .fat16, 8, 32, .fat ⟨1, 32, 97, 95, 8186⟩⟩⟩ := by
  have regions : FatTask.fixedRootArea ⟨262145, 16, 512, 32, 64⟩ = .ok ⟨1, 32, 97, 95, 8186⟩ := by
    cbv
  have result : Division.params ⟨262145, 512, 32, 64, .fat16, []⟩ (8, 32) =
      .ok (⟨262145, 512, 32, 64, .fat16, 8, 32, .fat ⟨1, 32, 97, 95, 8186⟩⟩, []) := by
    rw [Division.params, Division.smallArea, if_pos rfl, Division.task, regions]
    rfl
  rw [plan, show Division.forCapacity 262145 false false =
    .ok ⟨262145, 512, 32, 64, .fat16, []⟩ from rfl]
  show (Attempt.outcome (Division.params ⟨262145, 512, 32, 64, .fat16, []⟩ (8, 32)) >>= _) = _
  rw [result]
  rfl

/-- One sector more than 128 MiB is a block that the geometry for 128 MiB does not reach. The
partition has a type that promises addresses, and no address for its last block. -/
theorem addresses_miss_above128Mebibytes :
    ∃ params entry, plan 262145 false false = .ok ⟨[], .ok params⟩ ∧
      PartitionEntry.ofParams params false = .ok entry ∧ isAddressedType entry.type = true ∧
      ¬entry.endAddress.Locates params.heads params.sectorsPerTrack
        (entry.startBlock.toNat + entry.blockCount.toNat - 1) := by
  refine ⟨_, _, plan_above128Mebibytes, rfl, rfl, fun locates => ?_⟩
  exact absurd locates.head_lt (by decide)

end CardFormat
