/-
This file measures the FATs of a volume without faults: how many sectors a FAT with so
many entries takes, and how many the clusters behind a sector of the device need. The
search for a filesystem area with room for its own FATs depends on the first data sector
alone, so that moving the start of the partition and growing the area are one search.
What is found is the first candidate with room, and no later than any other.
-/

import CardFormat.Params.FatArea
import CardFormat.Proofs.Attempt
import Mathlib.Order.Bounds.Basic

namespace CardFormat

/-- The least multiple of the alignment that is not below the number. -/
def alignUp (alignment number : Nat) : Nat :=
  (number + alignment - 1) / alignment * alignment

theorem dvd_alignUp (alignment number : Nat) : alignment ∣ alignUp alignment number :=
  Nat.dvd_mul_left _ _

theorem le_alignUp {alignment : Nat} (positive : 0 < alignment) (number : Nat) :
    number ≤ alignUp alignment number := by
  have below := Nat.lt_div_mul_add (a := number + alignment - 1) positive
  unfold alignUp
  omega

/-- No other multiple is closer. -/
theorem alignUp_le {alignment number bound : Nat} (positive : 0 < alignment)
    (multiple : alignment ∣ bound) (above : number ≤ bound) : alignUp alignment number ≤ bound := by
  obtain ⟨count, rfl⟩ := multiple
  have few : (number + alignment - 1) / alignment ≤ count := by
    rw [← Nat.lt_succ_iff, Nat.div_lt_iff_lt_mul positive, Nat.succ_mul, Nat.mul_comm count]
    omega
  rw [alignUp, Nat.mul_comm]
  exact Nat.mul_le_mul_left alignment few

theorem alignUp_mono {alignment first second : Nat} (positive : 0 < alignment)
    (le : first ≤ second) : alignUp alignment first ≤ alignUp alignment second :=
  alignUp_le positive (dvd_alignUp alignment second) (le.trans (le_alignUp positive second))

/-- A multiple that is less than one alignment unit above the number is the least one. -/
theorem eq_alignUp {alignment number multiple : Nat} (positive : 0 < alignment)
    (divides : alignment ∣ multiple) (above : number ≤ multiple)
    (close : multiple < number + alignment) : multiple = alignUp alignment number := by
  have low := alignUp_le positive divides above
  have high := le_alignUp positive number
  have apart := Nat.dvd_sub divides (dvd_alignUp alignment number)
  have zero := Nat.eq_zero_of_dvd_of_lt apart (by omega)
  omega

/-- The gap to the next multiple leads to a multiple. -/
theorem dvd_add_gap {alignment : Nat} (positive : 0 < alignment) (number : Nat) :
    alignment ∣ number + (alignment - number % alignment) := by
  have small := Nat.mod_lt number positive
  have parts := Nat.div_add_mod number alignment
  refine ⟨number / alignment + 1, ?_⟩
  rw [Nat.mul_add, Nat.mul_one]
  omega

namespace FatTask

variable {task : FatTask}

/-- The sectors of a FAT with the given number of entries. -/
def tableSectors (task : FatTask) (entries : Nat) : Nat :=
  (entries * task.entryBits + task.bytesPerSector * 8 - 1) / (task.bytesPerSector * 8)

/-- The whole clusters from a sector to the end of the device. -/
def clustersFrom (task : FatTask) (dataStart : Nat) : Nat :=
  (task.totalSectors - dataStart) / task.sectorsPerCluster

/-- The sectors of one FAT for a data area that begins at the given sector. -/
def neededFrom (task : FatTask) (dataStart : Nat) : Nat :=
  task.tableSectors (task.clustersFrom dataStart + 2)

/-- The quantities of a task are positive. -/
structure Sized (task : FatTask) : Prop where
  bits_pos : 0 < task.entryBits
  sector_pos : 0 < task.bytesPerSector
  cluster_pos : 0 < task.sectorsPerCluster
  aligned : 0 < task.alignment

/-- The quantities of a task are positive, and nothing computed from them leaves a
machine word. -/
structure Regular (task : FatTask) : Prop where
  bits_pos : 0 < task.entryBits
  sector_pos : 0 < task.bytesPerSector
  cluster_pos : 0 < task.sectorsPerCluster
  aligned : 0 < task.alignment
  sector_fits : task.bytesPerSector * 8 < 2 ^ 64
  entries_fit : (task.totalSectors / task.sectorsPerCluster + 2) * task.entryBits < 2 ^ 64
  start_fits : task.totalSectors + 2 * task.alignment < 2 ^ 64

theorem Regular.sized (regular : task.Regular) : task.Sized :=
  ⟨regular.bits_pos, regular.sector_pos, regular.cluster_pos, regular.aligned⟩

/-! ### The size of a FAT -/

/-- The size is the least that holds the entries. -/
theorem isLeast_tableSectors (positive : 0 < task.bytesPerSector) (entries : Nat) :
    IsLeast {sectors | entries * task.entryBits ≤ sectors * (task.bytesPerSector * 8)}
      (task.tableSectors entries) := by
  have sectorBits : 0 < task.bytesPerSector * 8 := by omega
  constructor
  · have below := Nat.lt_div_mul_add (a := entries * task.entryBits + task.bytesPerSector * 8 - 1)
      sectorBits
    simp only [Set.mem_ofPred_eq, tableSectors]
    omega
  · intro sectors enough
    simp only [Set.mem_ofPred_eq] at enough
    rw [tableSectors, ← Nat.lt_succ_iff, Nat.div_lt_iff_lt_mul sectorBits, Nat.succ_mul]
    omega

theorem tableSectors_mono {fewer more : Nat} (le : fewer ≤ more) :
    task.tableSectors fewer ≤ task.tableSectors more := by
  have products := Nat.mul_le_mul_right task.entryBits le
  exact Nat.div_le_div_right (by omega)

/-- A later data area has no more clusters. -/
theorem clustersFrom_antitone {earlier later : Nat} (le : earlier ≤ later) :
    task.clustersFrom later ≤ task.clustersFrom earlier :=
  Nat.div_le_div_right (by omega)

theorem clustersFrom_le (dataStart : Nat) :
    task.clustersFrom dataStart ≤ task.totalSectors / task.sectorsPerCluster :=
  Nat.div_le_div_right (Nat.sub_le _ _)

/-- A later data area needs no larger FATs. -/
theorem neededFrom_antitone {earlier later : Nat} (le : earlier ≤ later) :
    task.neededFrom later ≤ task.neededFrom earlier :=
  tableSectors_mono (Nat.add_le_add_right (clustersFrom_antitone le) 2)

namespace Regular

theorem entries_lt (regular : task.Regular) {entries : Nat}
    (le : entries ≤ task.totalSectors / task.sectorsPerCluster + 2) :
    entries * task.entryBits < 2 ^ 64 :=
  (Nat.mul_le_mul_right _ le).trans_lt regular.entries_fit

/-- The FATs are far from filling a machine word. -/
theorem tableSectors_le (regular : task.Regular) {entries : Nat}
    (le : entries ≤ task.totalSectors / task.sectorsPerCluster + 2) :
    task.tableSectors entries ≤ 2 ^ 61 := by
  have bits := regular.entries_lt le
  have positive := regular.sector_pos
  refine (isLeast_tableSectors positive entries).2 ?_
  have product := Nat.mul_le_mul_left (2 ^ 61) (show 8 ≤ task.bytesPerSector * 8 by omega)
  simp only [Set.mem_ofPred_eq]
  omega

end Regular

namespace Sized

theorem fatSectorsFor_endsAs (sized : task.Sized) {entries : Nat}
    (le : entries ≤ task.totalSectors / task.sectorsPerCluster + 2) :
    Attempt.EndsAs
      (liftM (fatSectorsFor entries task.entryBits task.bytesPerSector) : Attempt FormatError Nat)
      (.ok (task.tableSectors entries)) task.Regular := by
  have positive := sized.sector_pos
  rw [fatSectorsFor, Attempt.lift_bind]
  refine (Attempt.word64_endsAs fun regular => regular.entries_lt le).bind ?_
  rw [Attempt.lift_bind]
  refine (Attempt.word64_endsAs Regular.sector_fits).bind (.inl ?_)
  rw [Checked.ceilDivide_of_pos (by omega), Attempt.lift_ok, tableSectors]

theorem fatSectors_endsAs (sized : task.Sized) {clusters : Nat}
    (le : clusters ≤ task.totalSectors / task.sectorsPerCluster) :
    Attempt.EndsAs (liftM (task.fatSectors clusters) : Attempt FormatError Nat)
      (.ok (task.tableSectors (clusters + 2))) task.Regular := by
  have entries (regular : task.Regular) : clusters + 2 < 2 ^ 64 :=
    (Nat.le_mul_of_pos_right _ regular.bits_pos).trans_lt
      (regular.entries_lt (Nat.add_le_add_right le 2))
  rw [fatSectors, Attempt.lift_bind]
  exact (Attempt.word64_endsAs entries).bind
    (sized.fatSectorsFor_endsAs (Nat.add_le_add_right le 2))

theorem firstFatSectors_endsAs (sized : task.Sized) :
    Attempt.EndsAs (liftM task.firstFatSectors : Attempt FormatError Nat)
      (.ok (task.tableSectors (task.totalSectors / task.sectorsPerCluster))) task.Regular := by
  rw [firstFatSectors, Checked.divide_of_pos sized.cluster_pos, Checked.ok_bind]
  exact sized.fatSectorsFor_endsAs (Nat.le_add_right _ 2)

theorem dataClusters_eq (sized : task.Sized) (start size : Nat) :
    task.dataClusters start size = .ok (task.clustersFrom (start + size)) := by
  rw [dataClusters, Checked.divide_of_pos sized.cluster_pos, Nat.sub_sub, clustersFrom]

end Sized

/-! ### The first data sector with room for the FATs -/

/-- The first data sector, among those a whole number of alignment units behind the given
one, that leaves no more clusters than FATs of the given size can number. -/
def roomyFrom (task : FatTask) (aligned : 0 < task.alignment) (fatSectors dataStart : Nat) :
    Option Nat :=
  if _inside : dataStart ≤ task.totalSectors then
    if task.neededFrom dataStart ≤ fatSectors then some dataStart
    else task.roomyFrom aligned fatSectors (dataStart + task.alignment)
  else none
termination_by task.totalSectors + 1 - dataStart

theorem roomyFrom_spec {aligned : 0 < task.alignment} {fatSectors dataStart found : Nat}
    (search : task.roomyFrom aligned fatSectors dataStart = some found) :
    dataStart ≤ found ∧ found ≤ task.totalSectors ∧ task.alignment ∣ found - dataStart ∧
      task.neededFrom found ≤ fatSectors := by
  fun_induction roomyFrom task aligned fatSectors dataStart with
  | case1 dataStart inside room =>
    cases search
    exact ⟨le_rfl, inside, by simp, room⟩
  | case2 dataStart inside full inductionHypothesis =>
    obtain ⟨after, within, multiple, room⟩ := inductionHypothesis search
    refine ⟨by omega, within, ?_, room⟩
    have step : found - dataStart = found - (dataStart + task.alignment) + task.alignment := by
      omega
    rw [step]
    exact Nat.dvd_add multiple (Nat.dvd_refl _)
  | case3 dataStart outside => cases search

/-- If some candidate has room, one is found, and no later. -/
theorem roomyFrom_le (aligned : 0 < task.alignment) {fatSectors dataStart goal : Nat}
    (after : dataStart ≤ goal) (inside : goal ≤ task.totalSectors)
    (multiple : task.alignment ∣ goal - dataStart) (room : task.neededFrom goal ≤ fatSectors) :
    ∃ found, task.roomyFrom aligned fatSectors dataStart = some found ∧ found ≤ goal := by
  fun_induction roomyFrom task aligned fatSectors dataStart with
  | case1 dataStart within early => exact ⟨dataStart, rfl, after⟩
  | case2 dataStart within full inductionHypothesis =>
    have distinct : goal ≠ dataStart := by
      rintro rfl
      exact full room
    have far := Nat.le_of_dvd (by omega) multiple
    refine inductionHypothesis (by omega) ?_
    rw [← Nat.sub_sub]
    exact Nat.dvd_sub multiple (Nat.dvd_refl _)
  | case3 dataStart outside => omega

theorem roomyFrom_self {aligned : 0 < task.alignment} {fatSectors dataStart : Nat}
    (inside : dataStart ≤ task.totalSectors) (room : task.neededFrom dataStart ≤ fatSectors) :
    task.roomyFrom aligned fatSectors dataStart = some dataStart := by
  rw [roomyFrom, dif_pos inside, if_pos room]

namespace Sized

/-- Moving the start on looks for the first data sector with room. -/
theorem advanceStart_endsAs (sized : task.Sized) (fatSectors size start : Nat) :
    Attempt.EndsAs (task.advanceStart sized.aligned fatSectors size start)
      (match task.roomyFrom sized.aligned fatSectors (start + size) with
      | none => Attempt.refuse (.infeasible .metadataTooLarge)
      | some found =>
        .ok ⟨found - size, size, task.clustersFrom found, task.neededFrom found⟩)
      task.Regular := by
  induction start using advanceStart.induct task sized.aligned size with
  | case1 start inside inductionHypothesis =>
    have next (regular : task.Regular) : start + task.alignment < 2 ^ 64 := by
      have := regular.start_fits
      omega
    rw [advanceStart, dif_pos inside, roomyFrom, dif_pos inside, sized.dataClusters_eq,
      Attempt.lift_ok, Checked.ok_bind]
    refine (sized.fatSectors_endsAs (clustersFrom_le _)).bind ?_
    by_cases room : task.neededFrom (start + size) ≤ fatSectors
    · have same := room
      rw [neededFrom] at same
      rw [if_pos same, if_pos room]
      simp only [Nat.add_sub_cancel]
      exact .inl rfl
    · have same := room
      rw [neededFrom] at same
      rw [if_neg same, if_neg room]
      refine (Attempt.word64_endsAs next).bind ?_
      rw [Nat.add_right_comm]
      exact inductionHypothesis
  | case2 start outside =>
    rw [advanceStart, dif_neg outside, roomyFrom, dif_neg outside]
    exact .inl rfl

/-- So does growing the area. -/
theorem growArea_endsAs (sized : task.Sized) (fatSectors start size : Nat) :
    Attempt.EndsAs (task.growArea sized.aligned fatSectors start size)
      (match task.roomyFrom sized.aligned fatSectors (start + size) with
      | none => Attempt.refuse (.infeasible .metadataTooLarge)
      | some found =>
        .ok ⟨start, found - start, task.clustersFrom found, task.neededFrom found⟩)
      task.Regular := by
  induction size using growArea.induct task sized.aligned start with
  | case1 size inside inductionHypothesis =>
    have next (regular : task.Regular) : size + task.alignment < 2 ^ 64 := by
      have := regular.start_fits
      omega
    rw [growArea, dif_pos inside, roomyFrom, dif_pos inside, sized.dataClusters_eq,
      Attempt.lift_ok, Checked.ok_bind]
    refine (sized.fatSectors_endsAs (clustersFrom_le _)).bind ?_
    by_cases room : task.neededFrom (start + size) ≤ fatSectors
    · have same := room
      rw [neededFrom] at same
      rw [if_pos same, if_pos room]
      simp only [Nat.add_sub_cancel_left]
      exact .inl rfl
    · have same := room
      rw [neededFrom] at same
      rw [if_neg same, if_neg room]
      refine (Attempt.word64_endsAs next).bind ?_
      rw [Nat.add_assoc]
      exact inductionHypothesis
  | case2 size outside =>
    rw [growArea, dif_neg outside, roomyFrom, dif_neg outside]
    exact .inl rfl

end Sized

end FatTask

end CardFormat
