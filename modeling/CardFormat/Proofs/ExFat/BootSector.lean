/-
This file reads the boot sector of an exFAT volume back. A driver finds the regions, the
number of clusters and the root directory at fixed places, and the sizes of sectors and
clusters as exponents of two. For a layout that can be recorded these are the numbers of
the layout, none of them cut off.
-/

import CardFormat.ExFat.BootRegion
import CardFormat.Proofs.Bytes.Sector
import CardFormat.Proofs.ExFat.Layout

namespace CardFormat.ExFat

/-- The numbers in a boot sector, as they stand at their places. -/
structure BootNumbers where
  partitionOffset : Nat
  volumeLength : Nat
  fatOffset : Nat
  fatLength : Nat
  heapOffset : Nat
  clusterCount : Nat
  rootCluster : Nat
  sectorShift : Nat
  clusterShift : Nat
  deriving Repr, DecidableEq

namespace BootNumbers

/-- Reads the numbers of a boot sector. -/
def read (sector : List UInt8) : BootNumbers where
  partitionOffset := Sector.readNumber sector 64 8
  volumeLength := Sector.readNumber sector 72 8
  fatOffset := Sector.readNumber sector 80 4
  fatLength := Sector.readNumber sector 84 4
  heapOffset := Sector.readNumber sector 88 4
  clusterCount := Sector.readNumber sector 92 4
  rootCluster := Sector.readNumber sector 96 4
  sectorShift := Sector.readNumber sector 108 1
  clusterShift := Sector.readNumber sector 109 1

/-- The size of a sector, which is recorded as an exponent. -/
def bytesPerSector (numbers : BootNumbers) : Nat := 2 ^ numbers.sectorShift

/-- The size of a cluster, recorded likewise. -/
def sectorsPerCluster (numbers : BootNumbers) : Nat := 2 ^ numbers.clusterShift

/-- The numbers are those of the layout, as far as their fields hold them. -/
structure Describe (numbers : BootNumbers) (layout : Layout) : Prop where
  partitionOffset : numbers.partitionOffset = layout.partitionOffset % 256 ^ 8
  volumeLength : numbers.volumeLength = layout.volumeLength % 256 ^ 8
  fatOffset : numbers.fatOffset = layout.fatOffset % 256 ^ 4
  fatLength : numbers.fatLength = layout.fatLength % 256 ^ 4
  heapOffset : numbers.heapOffset = layout.heapOffset % 256 ^ 4
  clusterCount : numbers.clusterCount = layout.clusterCount % 256 ^ 4
  rootCluster : numbers.rootCluster = layout.rootCluster % 256 ^ 4
  sectorShift : numbers.sectorShift = (UInt8.ofNat (trailingZeros layout.bytesPerSector)).toNat
  clusterShift : numbers.clusterShift =
    (UInt8.ofNat (trailingZeros layout.sectorsPerCluster)).toNat

/-- The numbers are those of the layout, none of them cut off. -/
structure Record (numbers : BootNumbers) (layout : Layout) : Prop where
  partitionOffset : numbers.partitionOffset = layout.partitionOffset
  volumeLength : numbers.volumeLength = layout.volumeLength
  fatOffset : numbers.fatOffset = layout.fatOffset
  fatLength : numbers.fatLength = layout.fatLength
  heapOffset : numbers.heapOffset = layout.heapOffset
  clusterCount : numbers.clusterCount = layout.clusterCount
  rootCluster : numbers.rootCluster = layout.rootCluster
  bytesPerSector : numbers.bytesPerSector = layout.bytesPerSector
  sectorsPerCluster : numbers.sectorsPerCluster = layout.sectorsPerCluster

end BootNumbers

/-! ### Composing the boot sector -/

/-- The places of the fields of the boot sector. -/
def bootPlaces : List (Nat × Nat) :=
  [(0, 3), (3, 8), (64, 8), (72, 8), (80, 4), (84, 4), (88, 4), (92, 4), (96, 4), (100, 4), (104, 2),
    (106, 2), (108, 1), (109, 1), (110, 1), (111, 1), (112, 1), (120, 390), (510, 2)]

theorem readNumber_of_encode {sector : List UInt8} {offset width value : Nat}
    (found : Sector.read sector offset (LittleEndian.encode width value).length =
      LittleEndian.encode width value) :
    Sector.readNumber sector offset width = value % 256 ^ width := by
  rw [LittleEndian.length_encode] at found
  rw [Sector.readNumber, found, LittleEndian.decode_encode]

/-- The boot sector says what its layout is. -/
theorem bootSector_eq_ok {layout : Layout} (large : 512 ≤ layout.bytesPerSector) (serial : UInt32) :
    ∃ sector, bootSector layout serial = .ok sector ∧ sector.length = layout.bytesPerSector ∧
      (BootNumbers.read sector).Describe layout := by
  rw [bootSector]
  refine Exists.imp (fun sector composed => ⟨composed.1, composed.2.length_eq, ?describe⟩)
    (Sector.compose_eq_ok bootPlaces ?placed (Sector.inside_sector large ?inside) ?apart)
  case describe =>
    have fields := composed.2.read_field
    simp only [List.forall_mem_cons] at fields
    obtain ⟨-, -, partition, volume, fatOffset, fatLength, heap, clusters, root, -, -, -,
      sectorShift, clusterShift, -⟩ := fields
    exact {
      partitionOffset := readNumber_of_encode partition
      volumeLength := readNumber_of_encode volume
      fatOffset := readNumber_of_encode fatOffset
      fatLength := readNumber_of_encode fatLength
      heapOffset := readNumber_of_encode heap
      clusterCount := readNumber_of_encode clusters
      rootCluster := readNumber_of_encode root
      sectorShift := congrArg LittleEndian.decode sectorShift
      clusterShift := congrArg LittleEndian.decode clusterShift }
  case placed =>
    simp only [List.map_cons, List.map_nil, Field.place, LittleEndian.length_encode,
      LittleEndian.length_word16, LittleEndian.length_word32, List.length_replicate]
    rfl
  case inside => decide
  case apart => decide

/-! ### Layouts that can be recorded -/

/-- The layout is sound, and its sizes and regions fit the fields of a boot sector. -/
structure Layout.Recordable (layout : Layout) : Prop extends layout.Sound where
  sector_power : isPowerOfTwo layout.bytesPerSector = true
  cluster_power : isPowerOfTwo layout.sectorsPerCluster = true
  heapOffset_le : layout.heapOffset ≤ 0xFFFFFFFF
  clusterBytes_le : layout.clusterBytes ≤ 32 * 1024 * 1024

theorem Layout.recordable_described {params : Params} {area : ExFatArea} {upcaseBytes : Nat}
    (valid : params.Valid) (layout : params.layout = .exFat area)
    (sound : (described params area upcaseBytes).Sound) :
    (described params area upcaseBytes).Recordable := by
  have regions := valid.layout
  rw [layout] at regions
  exact {
    toSound := sound
    sector_power := valid.sector_power
    cluster_power := valid.cluster_power
    heapOffset_le := regions.heapOffset_le
    clusterBytes_le := regions.clusterBytes_le }

theorem trailingZeros_pow : ∀ exponent < 32, trailingZeros (2 ^ exponent) = exponent := by
  decide

/-- A power of two is found again from the exponent in its byte. -/
theorem two_pow_shift {value : Nat} (power : isPowerOfTwo value = true) (fits : value < 2 ^ 32) :
    2 ^ (UInt8.ofNat (trailingZeros value)).toNat = value := by
  obtain ⟨exponent, rfl⟩ := isPowerOfTwo_iff.1 power
  have small : exponent < 32 := (Nat.pow_lt_pow_iff_right (by decide)).1 fits
  rw [trailingZeros_pow exponent small,
    UInt8.toNat_ofNat_of_lt' (Nat.lt_trans small (by decide))]

namespace Layout.Recordable

variable {layout : Layout}

theorem sizes_lt (recordable : layout.Recordable) :
    layout.bytesPerSector < 2 ^ 32 ∧ layout.sectorsPerCluster < 2 ^ 32 := by
  have bytes := recordable.clusterBytes_le
  have sector := Nat.le_mul_of_pos_left layout.bytesPerSector recordable.cluster_pos
  have cluster := Nat.le_mul_of_pos_right layout.sectorsPerCluster
    (Nat.lt_of_lt_of_le (by decide) recordable.sector_ge)
  unfold clusterBytes at bytes
  omega

/-- No number of the layout is cut off when it is put in its field. -/
theorem record_of_describe (recordable : layout.Recordable) {numbers : BootNumbers}
    (describe : numbers.Describe layout) : numbers.Record layout := by
  have sectors := recordable.sectors_fit
  have heap := recordable.heapOffset_le
  have fat := recordable.fatEnd_le
  have clusters := recordable.clusters_fit
  have root := recordable.root_eq
  have system := recordable.system_le
  obtain ⟨bytes, cluster⟩ := recordable.sizes_lt
  unfold firstCluster at root
  exact {
    partitionOffset := by
      rw [describe.partitionOffset, Nat.mod_eq_of_lt (by omega)]
    volumeLength := by
      rw [describe.volumeLength, Nat.mod_eq_of_lt (by omega)]
    fatOffset := by
      rw [describe.fatOffset, Nat.mod_eq_of_lt (by omega)]
    fatLength := by
      rw [describe.fatLength, Nat.mod_eq_of_lt (by omega)]
    heapOffset := by
      rw [describe.heapOffset, Nat.mod_eq_of_lt (by omega)]
    clusterCount := by
      rw [describe.clusterCount, Nat.mod_eq_of_lt (by omega)]
    rootCluster := by
      rw [describe.rootCluster, Nat.mod_eq_of_lt (by omega)]
    bytesPerSector := by
      rw [BootNumbers.bytesPerSector, describe.sectorShift,
        two_pow_shift recordable.sector_power bytes]
    sectorsPerCluster := by
      rw [BootNumbers.sectorsPerCluster, describe.clusterShift,
        two_pow_shift recordable.cluster_power cluster] }

end Layout.Recordable

end CardFormat.ExFat
