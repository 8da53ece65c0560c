/-
This file compares the views that a layout gives of the clusters the volume itself occupies:
their numbers, the chains in the table, the bits of the bitmap, and their places on the
device. All are made apart from each other, and all agree, whatever the sizes of the clusters,
of the heap and of the up-case table are.
-/

import CardFormat.Proofs.ExFat.Bitmap
import CardFormat.Proofs.ExFat.Volume

namespace CardFormat.ExFat

/-- Clusters in a row that end before others do are none of them. -/
theorem disjoint_range' {first count second others : Nat} (le : first + count ≤ second) :
    List.Disjoint (List.range' first count) (List.range' second others) := by
  intro cluster inFirst inSecond
  rw [List.mem_range'_1] at inFirst inSecond
  omega

namespace Layout

/-- The table, the bitmap and the numbers of clusters agree. -/
structure Consistent (layout : Layout) (table : List UInt8) (bitmap : Bitmap)
    (upcaseCluster systemClusters : Nat) : Prop where
  bitmap_chain : ∀ visited, Visits table firstCluster visited ↔
    visited = List.range' firstCluster layout.bitmapClusters
  upcase_chain : ∀ visited, Visits table upcaseCluster visited ↔
    visited = List.range' upcaseCluster layout.upcaseClusters
  root_chain : ∀ visited, Visits table layout.rootCluster visited ↔ visited = [layout.rootCluster]
  disjoint : [List.range' firstCluster layout.bitmapClusters,
    List.range' upcaseCluster layout.upcaseClusters, [layout.rootCluster]].Pairwise List.Disjoint
  allocated : ∀ cluster, bitmap.isAllocated cluster = true ↔
    cluster ∈ List.range' firstCluster layout.bitmapClusters ∨
      cluster ∈ List.range' upcaseCluster layout.upcaseClusters ∨ cluster = layout.rootCluster
  free : bitmap.countFree = layout.clusterCount - systemClusters
  bits : ∀ cluster, firstCluster ≤ cluster → cluster < layout.clusterCount + firstCluster →
    ∃ byte, bitmap.bytes.toList[(cluster - firstCluster) / 8]? = some byte ∧
      byte.toNat.testBit ((cluster - firstCluster) % 8) = bitmap.isAllocated cluster
  bitmapBytes_eq : layout.bitmapBytes = (layout.clusterCount + 7) / 8
  length_bitmap : bitmap.bytes.toList.length = layout.bitmapBytes
  bitmap_fits : layout.bitmapBytes ≤ layout.bitmapClusters * layout.clusterBytes
  upcase_fits : layout.upcaseBytes ≤ layout.upcaseClusters * layout.clusterBytes
  table_fits : table.length ≤ layout.fatLength * layout.bytesPerSector

/-- The two boot regions, the table and the clusters up to the root directory follow one
another on the device and end inside the volume. All their offsets can be computed. -/
def InOrder (layout : Layout) : Prop :=
  ∃ boot table finish, layout.sectorOffset 0 = .ok boot ∧
    layout.sectorOffset layout.fatOffset = .ok table ∧
    layout.sectorOffset layout.volumeLength = .ok finish ∧
    boot + 2 * regionSectors * layout.bytesPerSector ≤ table ∧
    ∀ cluster, firstCluster ≤ cluster → cluster ≤ layout.rootCluster → ∃ place,
      layout.clusterOffset cluster = .ok place ∧
      table + layout.fatLength * layout.bytesPerSector ≤ place ∧
      layout.clusterOffset (cluster + 1) = .ok (place + layout.clusterBytes) ∧
      place + layout.clusterBytes ≤ finish

namespace Sound

variable {layout : Layout}

theorem bitmapClusters_pos (sound : layout.Sound) : 0 < layout.bitmapClusters := by
  have system := sound.system_le
  have bytes := sound.bitmap_le
  exact Nat.pos_of_mul_pos_right (Nat.lt_of_lt_of_le (by omega) bytes)

theorem upcaseClusters_pos (sound : layout.Sound) (some : 1 ≤ layout.upcaseBytes) :
    0 < layout.upcaseClusters :=
  Nat.pos_of_mul_pos_right (Nat.lt_of_lt_of_le some sound.upcase_le)

/-- The bitmap is one run of clusters. -/
theorem bitmap_runs (sound : layout.Sound) :
    ∃ bitmap, layout.bitmap = .ok bitmap ∧ bitmap.clusterCount = layout.clusterCount ∧
      bitmap.runs = [⟨0, layout.bitmapClusters + layout.upcaseClusters + 1⟩] := by
  have system := sound.system_le
  have clusters := sound.clusters_fit
  rw [Layout.bitmap, sound.systemClusters_eq, Checked.ok_bind]
  refine ⟨_, rfl, Bitmap.clusterCount_allocatePlaces _ _ _, ?_⟩
  have stop : min (firstCluster + (layout.bitmapClusters + layout.upcaseClusters + 1)) 0xFFFFFFFF -
      firstCluster = layout.bitmapClusters + layout.upcaseClusters + 1 := by
    unfold firstCluster
    omega
  rw [Bitmap.allocateRange, stop, Nat.sub_self]
  exact Bitmap.runs_allocatePlaces_empty (Nat.succ_pos _) system

/-- The bitmap has the clusters up to the root directory and no others. -/
theorem isAllocated_iff (sound : layout.Sound) {bitmap : Bitmap}
    (runs : bitmap.runs = [⟨0, layout.bitmapClusters + layout.upcaseClusters + 1⟩])
    (cluster : Nat) :
    bitmap.isAllocated cluster = true ↔
      cluster ∈ List.range' firstCluster layout.bitmapClusters ∨
        cluster ∈ List.range' (firstCluster + layout.bitmapClusters) layout.upcaseClusters ∨
        cluster = layout.rootCluster := by
  have root := sound.root_eq
  rw [Bitmap.isAllocated, Bitmap.bit, runs]
  simp only [List.any_cons, List.any_nil, Bool.or_false, Run.holds, Bool.and_eq_true,
    decide_eq_true_eq, List.mem_range'_1]
  omega

theorem chains_disjoint (sound : layout.Sound) :
    [List.range' firstCluster layout.bitmapClusters,
      List.range' (firstCluster + layout.bitmapClusters) layout.upcaseClusters,
      [layout.rootCluster]].Pairwise List.Disjoint := by
  have upcaseRoot : firstCluster + layout.bitmapClusters + layout.upcaseClusters ≤
      layout.rootCluster := Nat.le_of_eq sound.root_eq.symm
  have bitmapRoot := Nat.le_trans (Nat.le_add_right _ _) upcaseRoot
  rw [show [layout.rootCluster] = List.range' layout.rootCluster 1 from rfl]
  simp only [List.pairwise_cons, List.forall_mem_cons, List.not_mem_nil, false_imp_iff,
    implies_true, and_true, List.Pairwise.nil]
  exact ⟨⟨disjoint_range' (Nat.le_refl _), disjoint_range' bitmapRoot⟩,
    disjoint_range' upcaseRoot⟩

/-- The chains in the table are those of the three structures. -/
theorem chains_visited (sound : layout.Sound) (some : 1 ≤ layout.upcaseBytes) {table : List UInt8}
    (result : layout.fatEntries = .ok table) :
    Visits table firstCluster (List.range' firstCluster layout.bitmapClusters) ∧
      Visits table (firstCluster + layout.bitmapClusters)
        (List.range' (firstCluster + layout.bitmapClusters) layout.upcaseClusters) ∧
      Visits table layout.rootCluster [layout.rootCluster] := by
  have bitmap := sound.bitmapClusters_pos
  have upcase := sound.upcaseClusters_pos some
  have root := sound.root_eq
  have system := sound.system_le
  have clusters := sound.clusters_fit
  have first : firstCluster = 2 := rfl
  have last : endOfChain = 0xFFFFFFFF := rfl
  rw [fatEntries, sound.fatNumbers_eq] at result
  cases result
  refine ⟨?_, ?_, ?_⟩
  · rw [List.append_assoc]
    exact visits_chain rfl bitmap (by omega)
  · refine visits_chain ?_ upcase (by omega)
    rw [List.length_append, length_chain]
    rfl
  · -- Nothing stands behind the last chain.
    rw [← List.append_nil (_ ++ chain layout.rootCluster 1)]
    refine visits_chain ?_ Nat.one_pos (by omega)
    rw [List.length_append, List.length_append, length_chain, length_chain, root]
    rfl

theorem consistent (sound : layout.Sound) (some : 1 ≤ layout.upcaseBytes)
    (bitmapBytes : layout.bitmapBytes = (layout.clusterCount + 7) / 8) {table : List UInt8}
    (tableResult : layout.fatEntries = .ok table) {bitmap : Bitmap}
    (bitmapResult : layout.bitmap = .ok bitmap) :
    layout.Consistent table bitmap (firstCluster + layout.bitmapClusters)
      (layout.bitmapClusters + layout.upcaseClusters + 1) := by
  obtain ⟨first, second, third⟩ := sound.chains_visited some tableResult
  have system := sound.system_le
  have root := sound.root_eq
  obtain ⟨entries, entriesResult, length_table⟩ := sound.fatEntries_eq_ok
  obtain ⟨found, foundResult, count, runs⟩ := sound.bitmap_runs
  obtain ⟨same, sameResult, length_bitmap⟩ := sound.bitmap_eq_ok
  -- What was found out about the table and the bitmap was about the ones that are given.
  rw [tableResult] at entriesResult
  rw [bitmapResult] at foundResult sameResult
  cases entriesResult
  cases foundResult
  cases sameResult
  exact {
    bitmap_chain := fun visited => ⟨fun other => other.unique first, fun equal => equal ▸ first⟩
    upcase_chain := fun visited => ⟨fun other => other.unique second, fun equal => equal ▸ second⟩
    root_chain := fun visited => ⟨fun other => other.unique third, fun equal => equal ▸ third⟩
    disjoint := sound.chains_disjoint
    allocated := sound.isAllocated_iff runs
    free := by
      rw [Bitmap.countFree, Bitmap.countAllocated, count, runs]
      rfl
    bits := fun cluster inHeap inside => bitmap.testBit_bytes inHeap (count.symm ▸ inside)
    bitmapBytes_eq := bitmapBytes
    length_bitmap := length_bitmap.trans bitmapBytes.symm
    bitmap_fits := bitmapBytes ▸ sound.bitmap_le
    upcase_fits := sound.upcase_le
    table_fits := by
      have room := sound.entries_le
      omega }

theorem inOrder (sound : layout.Sound) : layout.InOrder := by
  have table := sound.fatOffset_ge
  have fat := sound.fatEnd_le
  have heap := sound.heapEnd_le
  have root := sound.root_eq
  have system := sound.system_le
  have first : firstCluster = 2 := rfl
  refine ⟨_, _, _, sound.sectorOffset_eq (Nat.zero_le _), sound.sectorOffset_eq (by omega),
    sound.sectorOffset_eq (Nat.le_refl _), ?_, ?_⟩
  · rw [← sectorPlace_add, Nat.zero_add]
    exact sectorPlace_mono table
  · intro cluster inHeap inside
    have next : layout.clusterPlace (cluster + 1) =
        layout.clusterPlace cluster + layout.clusterBytes := by
      rw [clusterPlace_add inHeap, Nat.one_mul]
    refine ⟨_, sound.clusterOffset_eq inHeap (by omega), ?_, ?_, ?_⟩
    · rw [← sectorPlace_add]
      exact sectorPlace_mono (Nat.le_trans fat (Nat.le_add_right _ _))
    · rw [← next]
      exact sound.clusterOffset_eq (Nat.le_succ_of_le inHeap) (by omega)
    · rw [← next]
      have within := Nat.mul_le_mul_right layout.sectorsPerCluster
        (show cluster + 1 - firstCluster ≤ layout.clusterCount by omega)
      exact sectorPlace_mono (by omega)

end Sound

end Layout

/-- Whatever layout is made for accepted parameters, the table, the bitmap and the directory
agree on which clusters the volume occupies itself, there is room for what is put there, and
the regions follow one another inside the volume. -/
theorem layout_consistent {params : Params} {upcaseBytes : Nat} {layout : Layout}
    (accepted : params.validate = .ok ())
    (fit : params.totalSectors * params.bytesPerSector < 2 ^ 64) (some : 1 ≤ upcaseBytes)
    (made : Layout.ofParams params upcaseBytes = .ok layout) :
    ∃ table bitmap upcaseCluster systemClusters, layout.fatEntries = .ok table ∧
      layout.bitmap = .ok bitmap ∧ layout.upcaseCluster = .ok upcaseCluster ∧
      layout.systemClusters = .ok systemClusters ∧ layout.upcaseBytes = upcaseBytes ∧
      layout.Consistent table bitmap upcaseCluster systemClusters ∧ layout.InOrder := by
  have valid := validate_eq_ok_iff.1 accepted
  obtain ⟨area, isExFat, rfl, system⟩ :=
    Layout.described_of_ofParams valid.clusterBytes_pos made
  have sound := Layout.sound_described valid fit isExFat system
  obtain ⟨table, tableResult, -⟩ := sound.fatEntries_eq_ok
  obtain ⟨bitmap, bitmapResult, -⟩ := sound.bitmap_eq_ok
  exact ⟨table, bitmap, _, _, tableResult, bitmapResult, sound.upcaseCluster_eq,
    sound.systemClusters_eq, rfl, sound.consistent some rfl tableResult bitmapResult,
    sound.inOrder⟩

/-- With clusters of one sector, a bitmap for 5000 clusters and an up-case table of 1000 bytes
have two clusters each. -/
theorem layout_consistent_smallClusters :
    ∃ layout table bitmap, Layout.ofParams ⟨6000, 512, 1, 1, .exFat, 2, 16,
        .exFat ⟨64, 5936, 24, 64, 128, 5000⟩⟩ 1000 = .ok layout ∧
      layout.fatEntries = .ok table ∧ layout.bitmap = .ok bitmap ∧ layout.bitmapClusters = 2 ∧
      layout.upcaseClusters = 2 ∧ layout.Consistent table bitmap 4 5 ∧ layout.InOrder := by
  obtain ⟨table, bitmap, upcaseCluster, systemClusters, tableResult, bitmapResult, upcaseResult,
    systemResult, -, agree, ordered⟩ := layout_consistent
      (show Params.validate ⟨6000, 512, 1, 1, .exFat, 2, 16,
        .exFat ⟨64, 5936, 24, 64, 128, 5000⟩⟩ = .ok () from rfl) (by decide)
      (show 1 ≤ 1000 by decide) rfl
  cases upcaseResult
  cases systemResult
  exact ⟨_, table, bitmap, rfl, tableResult, bitmapResult, rfl, rfl, agree, ordered⟩

end CardFormat.ExFat
