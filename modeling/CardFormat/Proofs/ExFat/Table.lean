/-
This file follows the table of an exFAT volume as a driver does, from an entry to the cluster
it names, until one ends the chain. There is at most one chain from a cluster. Where the
table has the chain of consecutive clusters, it visits these and no others.
-/

import CardFormat.ExFat.Layout
import CardFormat.Proofs.Bytes.Sector

namespace CardFormat.ExFat

/-- The entry that ends a chain. -/
def endOfChain : Nat := 0xFFFFFFFF

/-- The entry of a cluster. -/
def tableEntry (table : List UInt8) (cluster : Nat) : Nat := Sector.readNumber table (cluster * 4) 4

/-- Following the table from a cluster visits these clusters, in order, and comes to an end. -/
inductive Visits (table : List UInt8) : Nat → List Nat → Prop where
  | last {cluster : Nat} (inside : (cluster + 1) * 4 ≤ table.length)
    (ends : tableEntry table cluster = endOfChain) : Visits table cluster [cluster]
  | next {cluster : Nat} {rest : List Nat} (inside : (cluster + 1) * 4 ≤ table.length)
    (goes : tableEntry table cluster ≠ endOfChain)
    (further : Visits table (tableEntry table cluster) rest) :
    Visits table cluster (cluster :: rest)

/-- The table decides what is visited. -/
theorem Visits.unique {table : List UInt8} {cluster : Nat} {visited others : List Nat}
    (first : Visits table cluster visited) (second : Visits table cluster others) :
    visited = others := by
  induction first generalizing others with
  | last inside ends =>
    cases second with
    | last => rfl
    | next _ goes _ => exact absurd ends goes
  | next inside goes further inductionHypothesis =>
    cases second with
    | last _ ends => exact absurd ends goes
    | next _ _ rest => rw [inductionHypothesis rest]

/-- Entries that each name the next cluster, but for the last, are visited one by one. -/
theorem visits_of_entries {table : List UInt8} {first count : Nat}
    (entries : ∀ index ≤ count, (first + index + 1) * 4 ≤ table.length ∧
      tableEntry table (first + index) =
        if index = count then endOfChain else first + index + 1)
    (numbers : first + count < endOfChain) :
    Visits table first (List.range' first (count + 1)) := by
  -- The chain behind its first cluster is a chain again, so the first cluster is general.
  induction count generalizing first with
  | zero =>
    obtain ⟨inside, entry⟩ := entries 0 (Nat.le_refl 0)
    exact .last inside entry
  | succ count inductionHypothesis =>
    obtain ⟨inside, entry⟩ := entries 0 (Nat.zero_le _)
    rw [if_neg (by omega), Nat.add_zero] at entry
    rw [List.range'_succ]
    refine .next inside (by omega) ?_
    rw [entry]
    refine inductionHypothesis ?_ (by omega)
    intro index within
    obtain ⟨later, follows⟩ := entries (index + 1) (by omega)
    rw [show first + 1 + index = first + (index + 1) by omega]
    refine ⟨later, ?_⟩
    rw [follows]
    split
    · rw [if_pos (by omega)]
    · rw [if_neg (by omega)]

/-! ### The bytes of the entries -/

theorem Layout.length_chain (first count : Nat) : (chain first count).length = count := by
  rw [chain, List.length_map, List.length_range]

/-- The entries of consecutive clusters, at the places of these clusters, are followed to
their end. -/
theorem visits_chain {before after : List Nat} {first count : Nat}
    (place : before.length = first) (some : 0 < count) (numbers : first + count ≤ endOfChain) :
    Visits ((before ++ Layout.chain first count ++ after).flatMap (LittleEndian.encode 4)) first
      (List.range' first count) := by
  obtain ⟨last, rfl⟩ : ∃ last, count = last + 1 := ⟨count - 1, by omega⟩
  have chain := Layout.length_chain first (last + 1)
  refine visits_of_entries ?_ numbers
  intro index within
  refine ⟨?_, Sector.readNumber_row ?_ ?_⟩
  · rw [Sector.length_row, List.length_append, List.length_append, place, chain]
    omega
  · rw [List.append_assoc, List.getElem?_append_right (by omega),
      List.getElem?_append_left (by omega), place, Nat.add_sub_cancel_left, Layout.chain,
      List.getElem?_map, List.getElem?_range (by omega)]
    simp only [Option.map_some, Nat.add_right_cancel_iff]
    rfl
  · split
    · decide
    · unfold endOfChain at numbers
      omega

end CardFormat.ExFat
