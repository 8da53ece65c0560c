/-
This file says what the layout of a new exFAT volume is for the parameters it is made
from, and what makes a layout sound: its regions follow one another, the clusters that the
volume itself occupies hold what is put there and are in the heap, and every offset and
every cluster number fits its word. The layouts of usable parameters are sound.
-/

import CardFormat.ExFat.Layout
import CardFormat.Proofs.Params.Usable

namespace CardFormat.ExFat

/-- The clusters that so many bytes take. -/
def clustersFor (bytes clusterBytes : Nat) : Nat := (bytes + clusterBytes - 1) / clusterBytes

theorem le_clustersFor_mul {clusterBytes : Nat} (positive : 0 < clusterBytes) (bytes : Nat) :
    bytes ≤ clustersFor bytes clusterBytes * clusterBytes := by
  have remainder := Nat.lt_div_mul_add positive (a := bytes + clusterBytes - 1)
  unfold clustersFor
  omega

namespace Layout

/-- The layout that the parameters describe. -/
def described (params : Params) (area : ExFatArea) (upcaseBytes : Nat) : Layout where
  bytesPerSector := params.bytesPerSector
  sectorsPerCluster := params.sectorsPerCluster
  partitionOffset := area.start
  volumeLength := area.length
  fatOffset := area.fatOffset
  fatLength := area.fatLength
  heapOffset := area.heapOffset
  clusterCount := area.clusters
  bitmapBytes := (area.clusters + 7) / 8
  bitmapClusters := clustersFor ((area.clusters + 7) / 8) params.clusterBytes
  upcaseBytes := upcaseBytes
  upcaseClusters := clustersFor upcaseBytes params.clusterBytes
  rootCluster := firstCluster + clustersFor ((area.clusters + 7) / 8) params.clusterBytes +
    clustersFor upcaseBytes params.clusterBytes
  eraseBlockBytes := params.alignment * params.bytesPerSector

theorem bootField_eq_ok {value : Nat} (fits : value < 2 ^ 32) (name : String) :
    bootField name value = .ok value :=
  if_pos fits

/-- A number of the layout that fits its field is passed on. -/
theorem bootField_bind_eq_ok_iff {name : String} {number : Nat} {Value : Type}
    {rest : Nat → Attempt IoError Value} {value : Value} :
    (bootField name number >>= rest) = .ok value ↔
      number < 2 ^ 32 ∧ rest number = .ok value := by
  by_cases fits : number < 2 ^ 32
  · rw [bootField_eq_ok fits, Checked.ok_bind]
    exact (and_iff_right fits).symm
  · rw [bootField, if_neg fits]
    constructor
    · intro impossible
      cases impossible
    · intro impossible
      exact absurd impossible.1 fits

section

variable {params : Params} {area : ExFatArea} {upcaseBytes : Nat}

/-- If the heap of accepted parameters has the clusters it needs, only the size of the erase
block is left to check. -/
theorem ofParams_eq (valid : params.Valid) (layout : params.layout = .exFat area)
    (system : clustersFor ((area.clusters + 7) / 8) params.clusterBytes +
      clustersFor upcaseBytes params.clusterBytes + 1 ≤ area.clusters)
    (eraseBlock : params.alignment * params.bytesPerSector < 2 ^ 64) :
    ofParams params upcaseBytes =
      bootField "erase block size" (params.alignment * params.bytesPerSector) >>=
        fun eraseBlockBytes => .ok { described params area upcaseBytes with eraseBlockBytes } := by
  have regions := valid.layout
  rw [layout] at regions
  have most : area.clusters ≤ 0xFFFFFFF5 := regions.clusters_le
  have heap := regions.heapOffset_le
  have fat := regions.fatEnd_le
  have positive := valid.clusterBytes_pos
  rw [ofParams, layout]
  simp only
  rw [Checked.ceilDivide_of_pos positive, Attempt.lift_ok, Checked.ok_bind,
    Checked.ceilDivide_of_pos positive, Attempt.lift_ok, Checked.ok_bind]
  rw [← clustersFor, ← clustersFor, Checked.word64_of_lt (by omega), Attempt.lift_ok,
    Checked.ok_bind, if_neg (by omega)]
  rw [bootField_eq_ok (by omega), Checked.ok_bind, bootField_eq_ok (by omega), Checked.ok_bind,
    bootField_eq_ok (by omega), Checked.ok_bind, bootField_eq_ok (by omega), Checked.ok_bind,
    bootField_eq_ok (by omega), Checked.ok_bind, bootField_eq_ok (by omega), Checked.ok_bind,
    firstCluster, Checked.word64_of_lt (by omega), Attempt.lift_ok, Checked.ok_bind,
    bootField_eq_ok (by omega), Checked.ok_bind, Checked.word64_of_lt eraseBlock, Attempt.lift_ok,
    Checked.ok_bind]
  rfl

/-- The heap has the clusters that the volume needs for itself, and the size of an erase block
can be recorded. -/
def Possible (params : Params) (area : ExFatArea) (upcaseBytes : Nat) : Prop :=
  clustersFor ((area.clusters + 7) / 8) params.clusterBytes +
      clustersFor upcaseBytes params.clusterBytes + 1 ≤ area.clusters ∧
    params.alignment * params.bytesPerSector < 2 ^ 32

instance (params : Params) (area : ExFatArea) (upcaseBytes : Nat) :
    Decidable (Possible params area upcaseBytes) := by
  unfold Possible
  infer_instance

/-- There is a layout for accepted parameters if it is possible. -/
theorem ofParams_of_possible (valid : params.Valid) (layout : params.layout = .exFat area)
    (possible : Possible params area upcaseBytes) :
    ofParams params upcaseBytes = .ok (described params area upcaseBytes) := by
  obtain ⟨system, eraseBlock⟩ := possible
  rw [ofParams_eq valid layout system (by omega), bootField_eq_ok eraseBlock]
  rfl

/-- If it is not possible, the parameters are refused. -/
theorem ofParams_of_not_possible (valid : params.Valid) (layout : params.layout = .exFat area)
    (short : upcaseBytes < 2 ^ 32) (eraseBlock : params.alignment * params.bytesPerSector < 2 ^ 64)
    (impossible : ¬Possible params area upcaseBytes) :
    ∃ message, ofParams params upcaseBytes = .error (.refused ⟨.invalidInput, message⟩) := by
  have regions := valid.layout
  rw [layout] at regions
  have most : area.clusters ≤ 0xFFFFFFF5 := regions.clusters_le
  have positive := valid.clusterBytes_pos
  by_cases few : area.clusters < clustersFor ((area.clusters + 7) / 8) params.clusterBytes +
      clustersFor upcaseBytes params.clusterBytes + 1
  · have cluster := regions.clusterBytes_le
    have bitmap : clustersFor ((area.clusters + 7) / 8) params.clusterBytes ≤ 2 ^ 33 :=
      Nat.le_trans (Nat.div_le_self _ _) (by omega)
    have upcase : clustersFor upcaseBytes params.clusterBytes ≤ 2 ^ 33 :=
      Nat.le_trans (Nat.div_le_self _ _) (by omega)
    rw [ofParams, layout]
    simp only
    rw [Checked.ceilDivide_of_pos positive, Attempt.lift_ok, Checked.ok_bind,
      Checked.ceilDivide_of_pos positive, Attempt.lift_ok, Checked.ok_bind, ← clustersFor,
      ← clustersFor, Checked.word64_of_lt (by omega), Attempt.lift_ok, Checked.ok_bind, if_pos few]
    exact ⟨_, rfl⟩
  · -- The heap is large enough, so the erase block is what does not fit.
    have large : ¬params.alignment * params.bytesPerSector < 2 ^ 32 :=
      fun small => impossible ⟨Nat.le_of_not_lt few, small⟩
    rw [ofParams_eq valid layout (Nat.le_of_not_lt few) eraseBlock, bootField, if_neg large]
    exact ⟨_, rfl⟩

end

/-- A layout that was made is the one that the parameters describe, and its clusters are in
the heap. -/
theorem described_of_ofParams {params : Params} {upcaseBytes : Nat} {layout : Layout}
    (positive : 0 < params.clusterBytes) (made : ofParams params upcaseBytes = .ok layout) :
    ∃ area, params.layout = .exFat area ∧ layout = described params area upcaseBytes ∧
      clustersFor ((area.clusters + 7) / 8) params.clusterBytes +
        clustersFor upcaseBytes params.clusterBytes + 1 ≤ area.clusters := by
  unfold ofParams at made
  cases regions : params.layout with
  | fat area =>
    rw [regions] at made
    cases made
  | exFat area =>
    rw [regions] at made
    simp only at made
    rw [Checked.ceilDivide_of_pos positive, Attempt.lift_ok, Checked.ok_bind,
      Checked.ceilDivide_of_pos positive, Attempt.lift_ok, Checked.ok_bind, ← clustersFor,
      ← clustersFor, Attempt.word64_bind_eq_ok_iff] at made
    obtain ⟨-, made⟩ := made
    by_cases few : area.clusters < clustersFor ((area.clusters + 7) / 8) params.clusterBytes +
        clustersFor upcaseBytes params.clusterBytes + 1
    · rw [if_pos few] at made
      cases made
    · rw [if_neg few] at made
      simp only [bootField_bind_eq_ok_iff, Attempt.word64_bind_eq_ok_iff] at made
      obtain ⟨-, -, -, -, -, -, -, -, -, -, made⟩ := made
      refine ⟨area, rfl, ?_, Nat.le_of_not_lt few⟩
      cases made
      rfl

/-! ### Sound layouts -/

/-- Bytes of a cluster. -/
def clusterBytes (layout : Layout) : Nat := layout.sectorsPerCluster * layout.bytesPerSector

/-- The regions follow one another on the device, and the clusters that the volume itself
occupies are in the heap and hold what is put there. -/
structure Sound (layout : Layout) : Prop where
  sector_ge : 512 ≤ layout.bytesPerSector
  sector_whole : sectorBytes ∣ layout.bytesPerSector
  cluster_pos : 0 < layout.sectorsPerCluster
  fatOffset_ge : 24 ≤ layout.fatOffset
  fatEnd_le : layout.fatOffset + layout.fatLength ≤ layout.heapOffset
  entries_le : (layout.clusterCount + 2) * 4 ≤ layout.fatLength * layout.bytesPerSector
  heapEnd_le : layout.heapOffset + layout.clusterCount * layout.sectorsPerCluster ≤
    layout.volumeLength
  bytes_fit : (layout.partitionOffset + layout.volumeLength) * layout.bytesPerSector < 2 ^ 64
  clusters_fit : layout.clusterCount + 2 < 2 ^ 32
  bitmap_le : (layout.clusterCount + 7) / 8 ≤ layout.bitmapClusters * layout.clusterBytes
  upcase_le : layout.upcaseBytes ≤ layout.upcaseClusters * layout.clusterBytes
  root_eq : layout.rootCluster = firstCluster + layout.bitmapClusters + layout.upcaseClusters
  system_le : layout.bitmapClusters + layout.upcaseClusters + 1 ≤ layout.clusterCount

/-- The layout of accepted parameters is sound, if the bytes of the card can be numbered and
the heap has the clusters it needs. -/
theorem sound_described {params : Params} {area : ExFatArea} {upcaseBytes : Nat}
    (valid : params.Valid) (fit : params.totalSectors * params.bytesPerSector < 2 ^ 64)
    (layout : params.layout = .exFat area)
    (system : clustersFor ((area.clusters + 7) / 8) params.clusterBytes +
      clustersFor upcaseBytes params.clusterBytes + 1 ≤ area.clusters) :
    Sound (described params area upcaseBytes) := by
  have regions := valid.layout
  rw [layout] at regions
  have cluster := pos_of_power valid.cluster_power
  have sector := valid.sector_ge
  have positive := valid.clusterBytes_pos
  have entries := regions.entries_le
  have most := regions.clusters_le
  rw [Nat.le_div_iff_mul_le (by decide)] at entries
  exact {
    sector_ge := sector
    sector_whole := sectorBytes_dvd_of_power valid.sector_power sector
    cluster_pos := cluster
    fatOffset_ge := regions.fatOffset_ge
    fatEnd_le := regions.fatEnd_le
    entries_le := entries
    heapEnd_le := regions.heapEnd_le
    bytes_fit := Nat.lt_of_le_of_lt (Nat.mul_le_mul_right _ regions.end_le) fit
    clusters_fit := Nat.lt_of_le_of_lt (Nat.add_le_add_right most 2) (by decide)
    bitmap_le := le_clustersFor_mul positive _
    upcase_le := le_clustersFor_mul positive _
    root_eq := rfl
    system_le := system }

/-- The byte offset of a sector of the partition. -/
def sectorPlace (layout : Layout) (sector : Nat) : Nat :=
  (layout.partitionOffset + sector) * layout.bytesPerSector

/-- The byte offset of a cluster. -/
def clusterPlace (layout : Layout) (cluster : Nat) : Nat :=
  layout.sectorPlace (layout.heapOffset + (cluster - firstCluster) * layout.sectorsPerCluster)

variable {layout : Layout}

theorem sectorPlace_add (sector more : Nat) :
    layout.sectorPlace (sector + more) =
      layout.sectorPlace sector + more * layout.bytesPerSector := by
  rw [sectorPlace, sectorPlace, ← Nat.add_assoc, Nat.add_mul]

theorem sectorPlace_mono {earlier later : Nat} (le : earlier ≤ later) :
    layout.sectorPlace earlier ≤ layout.sectorPlace later :=
  Nat.mul_le_mul_right _ (Nat.add_le_add_left le _)

theorem clusterPlace_add {cluster : Nat} (inHeap : firstCluster ≤ cluster) (more : Nat) :
    layout.clusterPlace (cluster + more) =
      layout.clusterPlace cluster + more * layout.clusterBytes := by
  rw [clusterPlace, Nat.sub_add_comm inHeap, Nat.add_mul, ← Nat.add_assoc, sectorPlace_add,
    Nat.mul_assoc]
  rfl

namespace Sound

theorem sectors_fit (sound : layout.Sound) :
    layout.partitionOffset + layout.volumeLength < 2 ^ 64 :=
  Nat.lt_of_le_of_lt
    (Nat.le_mul_of_pos_right _ (Nat.lt_of_lt_of_le (by decide) sound.sector_ge)) sound.bytes_fit

theorem sectorOffset_eq (sound : layout.Sound) {sector : Nat}
    (inside : sector ≤ layout.volumeLength) :
    layout.sectorOffset sector = .ok (layout.sectorPlace sector) := by
  have small : layout.partitionOffset + sector < 2 ^ 64 :=
    Nat.lt_of_le_of_lt (Nat.add_le_add_left inside _) sound.sectors_fit
  rw [sectorOffset, Checked.word64_of_lt small, Checked.ok_bind]
  exact Checked.word64_of_lt (Nat.lt_of_le_of_lt (sectorPlace_mono inside) sound.bytes_fit)

/-- The clusters up to the end of the heap have offsets. -/
theorem clusterOffset_eq (sound : layout.Sound) {cluster : Nat} (inHeap : firstCluster ≤ cluster)
    (inside : cluster ≤ layout.clusterCount + 2) :
    layout.clusterOffset cluster = .ok (layout.clusterPlace cluster) := by
  have product := Nat.mul_le_mul_right layout.sectorsPerCluster
    (show cluster - firstCluster ≤ layout.clusterCount from Nat.sub_le_of_le_add inside)
  have sector : layout.heapOffset + (cluster - firstCluster) * layout.sectorsPerCluster ≤
      layout.volumeLength := by
    have heap := sound.heapEnd_le
    omega
  have fits : layout.heapOffset + (cluster - firstCluster) * layout.sectorsPerCluster < 2 ^ 64 := by
    have := sound.sectors_fit
    omega
  rw [clusterOffset, Checked.subtract_of_le inHeap, Checked.ok_bind, Checked.word64_of_lt fits,
    Checked.ok_bind, sound.sectorOffset_eq sector]
  rfl

end Sound

end Layout

end CardFormat.ExFat
