/-
This file proves that the search for a FAT size settles, and on which area. A pass tries
one FAT size and finds the first data sector with room for it; if smaller FATs would do
there, another pass follows. The data sector of one pass is still a candidate of the next,
whose FATs are smaller but large enough for it. So the data sector never moves back
towards the end of the device, and the FAT size that is needed never falls. With a fixed
root directory the second pass has the size it needs; with FAT32, whose sizes come down one
at a time, the passes are counted by the distance between the two.
-/

import CardFormat.Proofs.Params.FatSize

namespace CardFormat.FatTask

variable {task : FatTask}

/-- The area solves the task: its parts add up, with room for a boot sector, the data
behind it begins on an alignment boundary of the device, all whole clusters are counted,
and the FATs have exactly the size that their entries need. -/
structure Settled (task : FatTask) (rootSectors : Nat) (area : FatArea) : Prop where
  reserved_pos : 0 < area.reserved
  size_eq : area.size = area.reserved + 2 * area.fatSectors + rootSectors
  inside : area.start + area.size ≤ task.totalSectors
  aligned : task.alignment ∣ area.start + area.size
  start_le : task.alignment ≤ area.start
  clusters_eq : area.clusters = task.clustersFrom (area.start + area.size)
  fatSectors_eq : area.fatSectors = task.tableSectors (area.clusters + 2)

/-! ### A fixed root directory -/

/-- The sectors before the data, with FATs of the given size. -/
def fixedRootSize (rootSectors fatSectors : Nat) : Nat := 1 + 2 * fatSectors + rootSectors

/-- The first data sector that a pass tries: a whole alignment unit is left in front. -/
def fixedRootData (task : FatTask) (rootSectors fatSectors : Nat) : Nat :=
  alignUp task.alignment (fixedRootSize rootSectors fatSectors) + task.alignment

theorem fixedRootData_mono (positive : 0 < task.alignment) (rootSectors : Nat) {fewer more : Nat}
    (le : fewer ≤ more) :
    task.fixedRootData rootSectors fewer ≤ task.fixedRootData rootSectors more := by
  unfold fixedRootData
  refine Nat.add_le_add_right (alignUp_mono positive ?_) _
  unfold fixedRootSize
  omega

theorem dvd_fixedRootData (rootSectors fatSectors : Nat) :
    task.alignment ∣ task.fixedRootData rootSectors fatSectors :=
  Nat.dvd_add (dvd_alignUp _ _) (Nat.dvd_refl _)

/-- The gap that a pass leaves in front of the area leads to its first data sector. -/
theorem gap_add_size (positive : 0 < task.alignment) (rootSectors fatSectors : Nat) :
    (if task.alignment - fixedRootSize rootSectors fatSectors % task.alignment = task.alignment
      then task.alignment - fixedRootSize rootSectors fatSectors % task.alignment
      else task.alignment - fixedRootSize rootSectors fatSectors % task.alignment +
        task.alignment) + fixedRootSize rootSectors fatSectors =
      task.fixedRootData rootSectors fatSectors := by
  have small := Nat.mod_lt (fixedRootSize rootSectors fatSectors) positive
  have multiple := dvd_add_gap positive (fixedRootSize rootSectors fatSectors)
  unfold fixedRootData
  split
  · rename_i whole
    rw [whole, Nat.dvd_add_left (Nat.dvd_refl _)] at multiple
    rw [whole, ← eq_alignUp positive multiple le_rfl (by omega), Nat.add_comm]
  · rename_i partly
    rw [← eq_alignUp positive multiple (by omega) (by omega)]
    omega

/-- The area of a pass that has found its data sector. -/
def fixedRootPass (task : FatTask) (rootSectors fatSectors found : Nat) : FatArea :=
  ⟨1, fatSectors, fixedRootSize rootSectors fatSectors,
    found - fixedRootSize rootSectors fatSectors, task.clustersFrom found⟩

/-- The area that a pass finds for FATs of the given size. -/
def fixedRootFit (task : FatTask) (aligned : 0 < task.alignment) (rootSectors fatSectors : Nat) :
    Attempt FormatError FatFit := do
  let size ← Checked.word64 (fixedRootSize rootSectors fatSectors)
  let gap := task.alignment - size % task.alignment
  let start ← Checked.word64 (if gap = task.alignment then gap else gap + task.alignment)
  task.advanceStart aligned fatSectors size start

/-- A pass with FATs of the size they need ends the search, any other hands on the size. -/
theorem settleFixedRoot_succ (aligned : 0 < task.alignment) (rootSectors passes fatSectors : Nat) :
    task.settleFixedRoot rootSectors (passes + 1) fatSectors =
      task.fixedRootFit aligned rootSectors fatSectors >>= fun fit =>
        if fit.needed = fatSectors then
          .ok ⟨1, fatSectors, fixedRootSize rootSectors fatSectors, fit.start, fit.clusters⟩
        else task.settleFixedRoot rootSectors passes fit.needed := by
  rw [settleFixedRoot, fixedRootFit, show 1 + 2 * fatSectors + rootSectors =
    fixedRootSize rootSectors fatSectors from rfl]
  by_cases fits : fixedRootSize rootSectors fatSectors < 2 ^ 64
  · rw [Checked.word64_of_lt fits, Attempt.lift_ok, Checked.ok_bind, Checked.ok_bind,
      dif_pos aligned]
    simp only [bind_assoc]
    rfl
  · rw [Checked.word64, if_neg fits]
    rfl

/-- A pass looks for the first data sector with room. -/
theorem Sized.fixedRootFit_endsAs (sized : task.Sized) {rootSectors fatSectors : Nat}
    (rootFits : rootSectors ≤ 2 ^ 61) (fatFits : task.Regular → fatSectors ≤ 2 ^ 61) :
    Attempt.EndsAs (task.fixedRootFit sized.aligned rootSectors fatSectors)
      (match task.roomyFrom sized.aligned fatSectors
          (task.fixedRootData rootSectors fatSectors) with
      | none => Attempt.refuse (.infeasible .metadataTooLarge)
      | some found =>
        .ok ⟨found - fixedRootSize rootSectors fatSectors, fixedRootSize rootSectors fatSectors,
          task.clustersFrom found, task.neededFrom found⟩)
      task.Regular := by
  have sum := gap_add_size sized.aligned rootSectors fatSectors
  have sizeFits (regular : task.Regular) : fixedRootSize rootSectors fatSectors < 2 ^ 64 := by
    have := fatFits regular
    unfold fixedRootSize
    omega
  rw [fixedRootFit]
  refine (Attempt.word64_endsAs sizeFits).bind ((Attempt.word64_endsAs fun regular => ?_).bind ?_)
  · have := regular.start_fits
    split <;> omega
  · rw [← sum]
    exact sized.advanceStart_endsAs fatSectors (fixedRootSize rootSectors fatSectors) _

/-- What a pass does to the search. -/
theorem Sized.settleFixedRoot_endsAs (sized : task.Sized) {rootSectors fatSectors : Nat}
    (rootFits : rootSectors ≤ 2 ^ 61) (fatFits : task.Regular → fatSectors ≤ 2 ^ 61)
    (passes : Nat) :
    Attempt.EndsAs (task.settleFixedRoot rootSectors (passes + 1) fatSectors)
      (match task.roomyFrom sized.aligned fatSectors
          (task.fixedRootData rootSectors fatSectors) with
      | none => Attempt.refuse (.infeasible .metadataTooLarge)
      | some found =>
        if task.neededFrom found = fatSectors then
          .ok (task.fixedRootPass rootSectors fatSectors found)
        else task.settleFixedRoot rootSectors passes (task.neededFrom found))
      task.Regular := by
  have ends := sized.fixedRootFit_endsAs rootFits fatFits
  rw [settleFixedRoot_succ sized.aligned]
  cases search : task.roomyFrom sized.aligned fatSectors
      (task.fixedRootData rootSectors fatSectors) with
  | none =>
    rw [search] at ends
    exact ends.bind_error _
  | some found =>
    rw [search] at ends
    exact ends.bind (.inl rfl)

/-- A pass whose FATs have the size they need solves the task. -/
theorem settled_fixedRootPass {aligned : 0 < task.alignment} {rootSectors fatSectors found : Nat}
    (search : task.roomyFrom aligned fatSectors
      (task.fixedRootData rootSectors fatSectors) = some found)
    (exact : task.neededFrom found = fatSectors) :
    task.Settled rootSectors (task.fixedRootPass rootSectors fatSectors found) ∧
      (task.fixedRootPass rootSectors fatSectors found).start +
        (task.fixedRootPass rootSectors fatSectors found).size = found := by
  obtain ⟨after, inside, multiple, -⟩ := roomyFrom_spec search
  have first : fixedRootSize rootSectors fatSectors + task.alignment ≤
      task.fixedRootData rootSectors fatSectors :=
    Nat.add_le_add_right (le_alignUp aligned _) _
  have boundary : task.alignment ∣ found :=
    (Nat.dvd_sub_iff_left after (dvd_fixedRootData _ _)).1 multiple
  have sum : (task.fixedRootPass rootSectors fatSectors found).start +
      (task.fixedRootPass rootSectors fatSectors found).size = found := by
    simp only [fixedRootPass]
    omega
  exact ⟨{
    reserved_pos := Nat.one_pos
    size_eq := rfl
    inside := by rw [sum]; exact inside
    aligned := by rw [sum]; exact boundary
    start_le := by simp only [fixedRootPass]; omega
    clusters_eq := by rw [sum]; rfl
    fatSectors_eq := exact.symm }, sum⟩

/-- Once a pass finds room, it or the next one settles, with data no later than found. -/
theorem Sized.settleFixedRoot_of_room (sized : task.Sized) {rootSectors fatSectors found : Nat}
    (rootFits : rootSectors ≤ 2 ^ 61) (fatFits : task.Regular → fatSectors ≤ 2 ^ 61)
    (search : task.roomyFrom sized.aligned fatSectors
      (task.fixedRootData rootSectors fatSectors) = some found) (passes : Nat) :
    ∃ area, Attempt.EndsAs (task.settleFixedRoot rootSectors (passes + 2) fatSectors) (.ok area)
        task.Regular ∧
      task.Settled rootSectors area ∧ area.reserved = 1 ∧ area.start + area.size ≤ found := by
  obtain ⟨after, inside, multiple, room⟩ := roomyFrom_spec search
  have ends := sized.settleFixedRoot_endsAs rootFits fatFits (passes + 1)
  rw [search] at ends
  by_cases exact : task.neededFrom found = fatSectors
  · obtain ⟨settled, dataStart⟩ := settled_fixedRootPass search exact
    simp only [exact, if_true] at ends
    exact ⟨_, ends, settled, rfl, dataStart.le⟩
  · -- The FATs that suffice at `found` are tried from no later a sector, so `found` is a goal.
    have earlier := (fixedRootData_mono sized.aligned rootSectors room).trans after
    obtain ⟨next, nextSearch, nextLe⟩ := roomyFrom_le sized.aligned earlier inside
      (Nat.dvd_sub ((Nat.dvd_sub_iff_left after (dvd_fixedRootData _ _)).1 multiple)
        (dvd_fixedRootData rootSectors (task.neededFrom found))) le_rfl
    have nextExact : task.neededFrom next = task.neededFrom found :=
      Nat.le_antisymm (roomyFrom_spec nextSearch).2.2.2 (neededFrom_antitone nextLe)
    obtain ⟨settled, dataStart⟩ := settled_fixedRootPass nextSearch nextExact
    have nextEnds := sized.settleFixedRoot_endsAs rootFits
      (fun regular => room.trans (fatFits regular)) passes
    rw [nextSearch] at nextEnds
    simp only [exact, if_false] at ends
    simp only [nextExact, if_true] at nextEnds
    exact ⟨_, ends.trans nextEnds, settled, rfl, dataStart.le.trans nextLe⟩

/-! ### FAT32 -/

/-- The first data sector that a pass tries: behind one alignment unit in front of the
partition, the boot records and the FATs. -/
def fat32Data (task : FatTask) (fatSectors : Nat) : Nat :=
  task.alignment + alignUp task.alignment (2 * fatSectors + fat32LeastReserved)

theorem fat32Data_mono (positive : 0 < task.alignment) {fewer more : Nat} (le : fewer ≤ more) :
    task.fat32Data fewer ≤ task.fat32Data more :=
  Nat.add_le_add_left (alignUp_mono positive (by omega)) _

theorem dvd_fat32Data (fatSectors : Nat) : task.alignment ∣ task.fat32Data fatSectors :=
  Nat.dvd_add (Nat.dvd_refl _) (dvd_alignUp _ _)

/-- The reserved area of a pass and its FATs end at an alignment boundary, the next one
that leaves the boot records enough room. -/
theorem reserved_add_fats (wide : 8 ≤ task.alignment) (fatSectors : Nat) :
    (if task.alignment - 2 * fatSectors % task.alignment < fat32LeastReserved then
        task.alignment - 2 * fatSectors % task.alignment + task.alignment
      else task.alignment - 2 * fatSectors % task.alignment) + 2 * fatSectors =
      alignUp task.alignment (2 * fatSectors + fat32LeastReserved) := by
  have positive : 0 < task.alignment := by omega
  have small := Nat.mod_lt (2 * fatSectors) positive
  have multiple := dvd_add_gap positive (2 * fatSectors)
  unfold fat32LeastReserved
  split
  · refine eq_alignUp positive ?_ (by omega) (by omega)
    rw [Nat.add_right_comm, Nat.add_comm _ (2 * fatSectors)]
    exact Nat.dvd_add multiple (Nat.dvd_refl _)
  · refine eq_alignUp positive ?_ (by omega) (by omega)
    rw [Nat.add_comm]
    exact multiple

/-- The area of a pass that has found its data sector. -/
def fat32Pass (task : FatTask) (fatSectors found : Nat) : FatArea :=
  shortenReserved task.alignment
    ⟨found - task.alignment - 2 * fatSectors, fatSectors, found - task.alignment,
      task.alignment, task.clustersFrom found⟩

/-- The area that a pass finds for FATs of the given size. -/
def fat32Fit (task : FatTask) (aligned : 0 < task.alignment) (fatSectors : Nat) :
    Attempt FormatError FatFit := do
  let fats ← Checked.word64 (2 * fatSectors)
  let gap := task.alignment - fats % task.alignment
  let reserved ← Checked.word64 (if gap < fat32LeastReserved then gap + task.alignment else gap)
  let size ← Checked.word64 (reserved + fats)
  task.growArea aligned fatSectors task.alignment size

/-- A pass with FATs of the size they need ends the search, any other makes them smaller. -/
theorem settleFat32_succ (aligned : 0 < task.alignment) (passes fatSectors : Nat) :
    task.settleFat32 (passes + 1) fatSectors =
      task.fat32Fit aligned fatSectors >>= fun fit =>
        if fit.needed = fatSectors then
          .ok (shortenReserved task.alignment
            ⟨fit.size - 2 * fatSectors, fatSectors, fit.size, fit.start, fit.clusters⟩)
        else if fatSectors = 0 then Attempt.refuse (.infeasible .fat32SizeUnsettled)
        else task.settleFat32 passes (fatSectors - 1) := by
  rw [settleFat32, fat32Fit]
  by_cases fits : 2 * fatSectors < 2 ^ 64
  · rw [Checked.word64_of_lt fits, Attempt.lift_ok, Checked.ok_bind, Checked.ok_bind,
      dif_pos aligned]
    simp only [bind_assoc]
    rfl
  · rw [Checked.word64, if_neg fits]
    rfl

/-- A pass looks for the first data sector with room. -/
theorem Sized.fat32Fit_endsAs (sized : task.Sized) (wide : 8 ≤ task.alignment) {fatSectors : Nat}
    (fatFits : task.Regular → fatSectors ≤ 2 ^ 61) :
    Attempt.EndsAs (task.fat32Fit sized.aligned fatSectors)
      (match task.roomyFrom sized.aligned fatSectors (task.fat32Data fatSectors) with
      | none => Attempt.refuse (.infeasible .metadataTooLarge)
      | some found =>
        .ok ⟨task.alignment, found - task.alignment, task.clustersFrom found,
          task.neededFrom found⟩)
      task.Regular := by
  have sum := reserved_add_fats wide fatSectors
  have small := Nat.mod_lt (2 * fatSectors) sized.aligned
  have reservedFits (regular : task.Regular) :
      (if task.alignment - 2 * fatSectors % task.alignment < fat32LeastReserved then
        task.alignment - 2 * fatSectors % task.alignment + task.alignment
      else task.alignment - 2 * fatSectors % task.alignment) ≤ 2 ^ 63 + 8 := by
    have := regular.start_fits
    unfold fat32LeastReserved
    split <;> omega
  rw [fat32Fit]
  refine (Attempt.word64_endsAs fun regular => ?_).bind
    ((Attempt.word64_endsAs fun regular => ?_).bind
      ((Attempt.word64_endsAs fun regular => ?_).bind ?_))
  · have := fatFits regular
    omega
  · have := reservedFits regular
    omega
  · have := reservedFits regular
    have := fatFits regular
    omega
  · rw [sum]
    exact sized.growArea_endsAs fatSectors task.alignment _

/-- What a pass does to the search. -/
theorem Sized.settleFat32_endsAs (sized : task.Sized) (wide : 8 ≤ task.alignment)
    {fatSectors : Nat} (fatFits : task.Regular → fatSectors ≤ 2 ^ 61) (passes : Nat) :
    Attempt.EndsAs (task.settleFat32 (passes + 1) fatSectors)
      (match task.roomyFrom sized.aligned fatSectors (task.fat32Data fatSectors) with
      | none => Attempt.refuse (.infeasible .metadataTooLarge)
      | some found =>
        if task.neededFrom found = fatSectors then
          .ok (task.fat32Pass fatSectors found)
        else if fatSectors = 0 then Attempt.refuse (.infeasible .fat32SizeUnsettled)
        else task.settleFat32 passes (fatSectors - 1))
      task.Regular := by
  have ends := sized.fat32Fit_endsAs wide fatFits
  rw [settleFat32_succ sized.aligned]
  cases search : task.roomyFrom sized.aligned fatSectors (task.fat32Data fatSectors) with
  | none =>
    rw [search] at ends
    exact ends.bind_error _
  | some found =>
    rw [search] at ends
    exact ends.bind (.inl rfl)

/-- Trading reserved area for a later start keeps the parts, the data and the boundaries,
and ends with a reserved area that fits its field or is too short to be traded. -/
theorem shortenReserved_spec {alignment : Nat} (positive : 0 < alignment) (area : FatArea)
    (parts : area.size = area.reserved + 2 * area.fatSectors)
    (enough : fat32LeastReserved ≤ area.reserved) (multiple : alignment ∣ area.start)
    (start_le : alignment ≤ area.start) :
    (shortenReserved alignment area).fatSectors = area.fatSectors ∧
      (shortenReserved alignment area).clusters = area.clusters ∧
      (shortenReserved alignment area).size =
        (shortenReserved alignment area).reserved + 2 * area.fatSectors ∧
      (shortenReserved alignment area).start + (shortenReserved alignment area).size =
        area.start + area.size ∧
      fat32LeastReserved ≤ (shortenReserved alignment area).reserved ∧
      alignment ∣ (shortenReserved alignment area).start ∧
      alignment ≤ (shortenReserved alignment area).start ∧
      ((shortenReserved alignment area).reserved ≤ 0xFFFF ∨
        (shortenReserved alignment area).reserved < alignment + fat32LeastReserved) := by
  fun_induction shortenReserved alignment area with
  | case1 area excess inductionHypothesis =>
    obtain ⟨-, -, long⟩ := excess
    have shorter := inductionHypothesis (by simp only; omega) (by simp only; omega)
      (Nat.dvd_add multiple (Nat.dvd_refl _)) (by simp only; omega)
    obtain ⟨fats, clusters, size, sum, rest⟩ := shorter
    exact ⟨fats, clusters, size, by simp only at sum; omega, rest⟩
  | case2 area done =>
    refine ⟨rfl, rfl, parts, rfl, enough, multiple, start_le, ?_⟩
    omega

/-- The area solves the task as FAT32 needs it: the partition starts at a boundary, and
the reserved area holds the boot records and fits its field, unless the alignment is too
large for that. -/
structure SettledFat32 (task : FatTask) (area : FatArea) : Prop extends task.Settled 0 area where
  start_aligned : task.alignment ∣ area.start
  reserved_ge : fat32LeastReserved ≤ area.reserved
  reserved_le : area.reserved ≤ 0xFFFF ∨ area.reserved < task.alignment + fat32LeastReserved

/-- A pass whose FATs have the size they need solves the task. -/
theorem settled_fat32Pass {aligned : 0 < task.alignment} {fatSectors found : Nat}
    (search : task.roomyFrom aligned fatSectors (task.fat32Data fatSectors) = some found)
    (exact : task.neededFrom found = fatSectors) :
    task.SettledFat32 (task.fat32Pass fatSectors found) ∧
      (task.fat32Pass fatSectors found).start + (task.fat32Pass fatSectors found).size = found := by
  obtain ⟨after, inside, multiple, -⟩ := roomyFrom_spec search
  have first : task.alignment + (2 * fatSectors + fat32LeastReserved) ≤ task.fat32Data fatSectors :=
    Nat.add_le_add_left (le_alignUp aligned _) _
  have boundary : task.alignment ∣ found :=
    (Nat.dvd_sub_iff_left after (dvd_fat32Data _)).1 multiple
  obtain ⟨fats, clusters, size, sum, enough, startBoundary, startLe, fits⟩ :=
    shortenReserved_spec aligned
      ⟨found - task.alignment - 2 * fatSectors, fatSectors, found - task.alignment,
        task.alignment, task.clustersFrom found⟩
      (by simp only; omega) (by simp only; omega) (Nat.dvd_refl _) le_rfl
  have dataStart : task.alignment + (found - task.alignment) = found := by omega
  simp only [dataStart] at sum
  refine ⟨{
    reserved_pos := Nat.lt_of_lt_of_le (by decide) enough
    size_eq := by rw [fat32Pass, size, fats, Nat.add_zero]
    inside := by rw [fat32Pass, sum]; exact inside
    aligned := by rw [fat32Pass, sum]; exact boundary
    start_le := startLe
    clusters_eq := by rw [fat32Pass, sum, clusters]
    fatSectors_eq := by rw [fat32Pass, fats, clusters]; exact exact.symm
    start_aligned := startBoundary
    reserved_ge := enough
    reserved_le := fits }, sum⟩

/-- A pass with one FAT sector less than another finds room too, and no later; there its FATs
need no less. -/
theorem roomyFrom_pred {aligned : 0 < task.alignment} {fatSectors found : Nat}
    (search : task.roomyFrom aligned fatSectors (task.fat32Data fatSectors) = some found)
    (inexact : task.neededFrom found ≠ fatSectors) :
    ∃ next, task.roomyFrom aligned (fatSectors - 1) (task.fat32Data (fatSectors - 1)) = some next ∧
      next ≤ found ∧ task.neededFrom found ≤ task.neededFrom next := by
  obtain ⟨after, inside, multiple, room⟩ := roomyFrom_spec search
  have earlier : task.fat32Data (fatSectors - 1) ≤ found :=
    (fat32Data_mono aligned (Nat.sub_le _ _)).trans after
  obtain ⟨next, nextSearch, nextLe⟩ := roomyFrom_le aligned earlier inside
    (Nat.dvd_sub ((Nat.dvd_sub_iff_left after (dvd_fat32Data _)).1 multiple)
      (dvd_fat32Data (fatSectors - 1))) (show task.neededFrom found ≤ fatSectors - 1 by omega)
  exact ⟨next, nextSearch, nextLe, neededFrom_antitone nextLe⟩

/-- Once a pass finds room, the search settles with data no later than found, unless its passes
are no more than the FAT sectors of this pass that exceed those it needs. -/
theorem Sized.settleFat32_of_room (sized : task.Sized) (wide : 8 ≤ task.alignment)
    {fatSectors found : Nat} (passes : Nat) (fatFits : task.Regular → fatSectors ≤ 2 ^ 61)
    (search : task.roomyFrom sized.aligned fatSectors (task.fat32Data fatSectors) = some found) :
    ∃ expected, Attempt.EndsAs (task.settleFat32 passes fatSectors) expected task.Regular ∧
      ((∃ area, expected = .ok area ∧ task.SettledFat32 area ∧ area.start + area.size ≤ found) ∨
        expected = Attempt.refuse (.infeasible .fat32SizeUnsettled) ∧
          task.neededFrom found + passes ≤ fatSectors) := by
  induction passes generalizing fatSectors found with
  | zero => exact ⟨_, .inl rfl, .inr ⟨rfl, (roomyFrom_spec search).2.2.2⟩⟩
  | succ passes inductionHypothesis =>
    have room := (roomyFrom_spec search).2.2.2
    have ends := sized.settleFat32_endsAs wide fatFits passes
    rw [search] at ends
    by_cases exact : task.neededFrom found = fatSectors
    · obtain ⟨settled, dataStart⟩ := settled_fat32Pass search exact
      simp only [exact, if_true] at ends
      exact ⟨_, ends, .inl ⟨_, rfl, settled, dataStart.le⟩⟩
    · obtain ⟨next, nextSearch, nextLe, needed⟩ := roomyFrom_pred search exact
      obtain ⟨expected, nextEnds, settles⟩ := inductionHypothesis
        (fun regular => (Nat.sub_le _ _).trans (fatFits regular)) nextSearch
      have positive : fatSectors ≠ 0 := by omega
      simp only [exact, positive, if_false] at ends
      refine ⟨expected, ends.trans nextEnds, ?_⟩
      rcases settles with ⟨area, result, settled, areaLe⟩ | ⟨result, few⟩
      · exact .inl ⟨area, result, settled, areaLe.trans nextLe⟩
      · exact .inr ⟨result, by omega⟩

end CardFormat.FatTask
