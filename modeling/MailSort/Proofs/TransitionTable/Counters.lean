import MailSort.Proofs.TransitionTable.Counting
import MailSort.Proofs.TransitionTable.RoundTrip

/-! # Counters

A consistent table is determined by what its counters read: one for each transition and one for
each total (`Consistent.ext_reading`).  Adding a sample or a table adds to every counter what the
sample or the table has for it, and subtracting takes as much away, as far as there is so much.
So subtraction undoes addition, whatever was counted before (`Reachable.subtract_undoes_add`).
-/

namespace MailSort

inductive Counter where
  | transition (transition : Transition)
  | length
  | samples

def Text.reading (sample : Text) : Counter → Nat
  | .transition transition => sample.transitions.count transition
  | .length => sample.length
  | .samples => 1

namespace TransitionTable

open Tally (weigh)

variable {table other : TransitionTable}

def reading (table : TransitionTable) : Counter → Nat
  | .transition transition => table.counts.count transition
  | .length => table.totalLength
  | .samples => table.totalSamples

/-- What leaves each token need not be compared, since it follows from the counts. -/
theorem Consistent.ext_reading (consistent : Consistent table) (consistent' : Consistent other)
    (same : ∀ counter, table.reading counter = other.reading counter) : table = other := by
  refine consistent.ext consistent' ?_ (same .length) (same .samples)
  exact Tally.ext_count consistent.counts_pos consistent'.counts_pos fun transition =>
    same (.transition transition)

/-! ## Adding -/

theorem totals_addCounts (table : TransitionTable) (amounts : List (Transition × Nat)) :
    (table.addCounts amounts).totalLength = table.totalLength ∧
      (table.addCounts amounts).totalSamples = table.totalSamples :=
  totals_foldl (fun table (entry : Transition × Nat) => table.addTransition entry.1 entry.2)
    (fun _ _ => ⟨rfl, rfl⟩) table amounts

theorem reading_add (table : TransitionTable) (sample : Text) (counter : Counter) :
    (table.add sample).reading counter = table.reading counter + sample.reading counter := by
  cases counter with
  | transition transition => exact count_add table sample transition
  | length => exact totalLength_add table sample
  | samples => exact totalSamples_add table sample

theorem reading_addTable (table other : TransitionTable) (counter : Counter) :
    (table.addTable other).reading counter = table.reading counter + other.reading counter := by
  obtain ⟨length, samples⟩ := totals_addCounts table other.counts.toList
  cases counter with
  | transition transition =>
    have added := count_addCounts table other.counts.toList transition
    rwa [Tally.weigh_eq_count] at added
  | length => exact congrArg (· + other.totalLength) length
  | samples => exact congrArg (· + other.totalSamples) samples

/-! ## Subtracting -/

def takeCounts (table : TransitionTable) (amounts : List (Transition × Nat)) : TransitionTable :=
  amounts.foldl (fun table entry => table.takeTransition entry.1 entry.2) table

/-- Amounts that are taken one after the other are taken as far as their sum is. -/
theorem count_takeCounts (table : TransitionTable) (amounts : List (Transition × Nat))
    (transition : Transition) :
    (table.takeCounts amounts).counts.count transition =
      table.counts.count transition - weigh (· = transition) amounts := by
  induction amounts generalizing table with
  | nil => rfl
  | cons entry amounts ih =>
    rw [takeCounts, List.foldl_cons, ← takeCounts, ih, takeTransition, Tally.count_take, weigh,
      Nat.sub_sub]
    simp only [decide_eq_true_eq]

theorem totals_takeCounts (table : TransitionTable) (amounts : List (Transition × Nat)) :
    (table.takeCounts amounts).totalLength = table.totalLength ∧
      (table.takeCounts amounts).totalSamples = table.totalSamples :=
  totals_foldl (fun table (entry : Transition × Nat) => table.takeTransition entry.1 entry.2)
    (fun _ _ => ⟨rfl, rfl⟩) table amounts

theorem reading_subtract (table : TransitionTable) (sample : Text) (counter : Counter) :
    (table.subtract sample).reading counter = table.reading counter - sample.reading counter := by
  -- Each transition is taken once for each time the sample has it.
  let amounts := sample.transitions.map fun transition => (transition, 1)
  have subtracted : table.subtract sample = (table.takeCounts amounts).withTotals
      ((table.takeCounts amounts).totalLength - sample.length)
      ((table.takeCounts amounts).totalSamples - 1) := by
    rw [takeCounts, List.foldl_map]
    rfl
  obtain ⟨length, samples⟩ := totals_takeCounts table amounts
  rw [subtracted]
  cases counter with
  | transition transition =>
    have taken := count_takeCounts table amounts transition
    rwa [Tally.weigh_map_one] at taken
  | length => exact congrArg (· - sample.length) length
  | samples => exact congrArg (· - 1) samples

theorem reading_subtractTable (table other : TransitionTable) (counter : Counter) :
    (table.subtractTable other).reading counter =
      table.reading counter - other.reading counter := by
  obtain ⟨length, samples⟩ := totals_takeCounts table other.counts.toList
  cases counter with
  | transition transition =>
    have taken := count_takeCounts table other.counts.toList transition
    rwa [Tally.weigh_eq_count] at taken
  | length => exact congrArg (· - other.totalLength) length
  | samples => exact congrArg (· - other.totalSamples) samples

/-! ## Undoing -/

/-- Subtracting a sample or a table that was just added gives the table back as it was, also if
    earlier subtractions have found less than they were to take. -/
theorem Reachable.subtract_undoes_add (reachable : Reachable table)
    (other_reachable : Reachable other) (sample : Text) :
    (table.add sample).subtract sample = table ∧
      (table.addTable other).subtractTable other = table := by
  have consistent := reachable.consistent
  constructor
  · refine ((consistent.add sample).subtract sample).ext_reading consistent fun counter => ?_
    rw [reading_subtract, reading_add, Nat.add_sub_cancel]
  · have added := consistent.addTable other_reachable.consistent
    refine (added.subtractTable other).ext_reading consistent fun counter => ?_
    rw [reading_subtractTable, reading_addTable, Nat.add_sub_cancel]

/-- Both tables have transitions left, but no samples for them: too long a text and one that was
    never added were subtracted. -/
theorem subtract_undoes_add_after_saturation :
    let table := ((empty.add "aab".toList).subtract "a longer one".toList).subtract "aa".toList
    let other := (empty.add "baab".toList).subtract "xy".toList
    Reachable table ∧ Reachable other ∧ table.totalSamples = 0 ∧ other.totalSamples = 0 ∧
      (table.add "aaba".toList).subtract "aaba".toList = table ∧
      (table.addTable other).subtractTable other = table := by
  intro table other
  have reachable : Reachable table := .subtract _ (.subtract _ (.add _ .empty))
  have other_reachable : Reachable other := .subtract _ (.add _ .empty)
  exact ⟨reachable, other_reachable, rfl, rfl,
    reachable.subtract_undoes_add other_reachable "aaba".toList⟩

end TransitionTable

end MailSort
