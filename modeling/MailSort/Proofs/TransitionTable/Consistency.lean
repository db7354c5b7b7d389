import MailSort.Proofs.Tally
import MailSort.Proofs.TransitionTable.Snapshot

/-! # Consistent transition tables

Whatever is added to a table and taken away from it, its two tallies fit together: what leaves a
token is the sum of the transitions from it.
-/

namespace MailSort

theorem Text.proper_of_mem_transitions {sample : Text} {transition : Transition}
    (member : transition ∈ sample.transitions) : transition.Proper := by
  rw [transitions, ← List.map_uncurry_zip_eq_zipWith, List.mem_map] at member
  obtain ⟨⟨source, target⟩, linked, rfl⟩ := member
  obtain ⟨left, right⟩ := List.of_mem_zip linked
  constructor
  · rintro rfl
    simp at left
  · rintro rfl
    simp at right

namespace TransitionTable

open Tally (weigh)

/-- What `empty`, accepted snapshots and the operations lead to. -/
inductive Reachable : TransitionTable → Prop where
  | empty : Reachable .empty
  | ofSnapshot {snapshot : Snapshot} {table : TransitionTable} :
      ofSnapshot snapshot = .ok table → Reachable table
  | add {table : TransitionTable} (sample : Text) : Reachable table → Reachable (table.add sample)
  | subtract {table : TransitionTable} (sample : Text) :
      Reachable table → Reachable (table.subtract sample)
  | addTable {table other : TransitionTable} :
      Reachable table → Reachable other → Reachable (table.addTable other)
  | subtractTable {table other : TransitionTable} :
      Reachable table → Reachable other → Reachable (table.subtractTable other)

structure Consistent (table : TransitionTable) : Prop where
  counts_pos : table.counts.Positive
  outgoing_pos : table.outgoing.Positive
  outgoing_count (token : Token) :
    table.outgoing.count token =
      weigh (fun transition => transition.source = token) table.counts.toList
  proper {transition : Transition} : 0 < table.counts.count transition → transition.Proper

variable {table other : TransitionTable}

theorem consistent_empty : Consistent .empty where
  counts_pos := Tally.positive_empty
  outgoing_pos := Tally.positive_empty
  outgoing_count := fun _ => rfl
  proper := nofun

namespace Consistent

theorem proper_of_mem (consistent : Consistent table) {entry : Transition × Nat}
    (member : entry ∈ table.counts.toList) : entry.1.Proper := by
  apply consistent.proper
  rw [Tally.count_of_mem member]
  exact consistent.counts_pos entry member

theorem withTotals (consistent : Consistent table) (length samples : Nat) :
    Consistent (table.withTotals length samples) :=
  ⟨consistent.counts_pos, consistent.outgoing_pos, consistent.outgoing_count, consistent.proper⟩

theorem addTransition (consistent : Consistent table) {transition : Transition}
    (proper : transition.Proper) (amount : Nat) :
    Consistent (table.addTransition transition amount) where
  counts_pos := consistent.counts_pos.add transition amount
  outgoing_pos := consistent.outgoing_pos.add transition.source amount
  outgoing_count := by
    intro token
    simp only [TransitionTable.addTransition, Tally.count_add, Tally.weigh_add,
      consistent.outgoing_count, decide_eq_true_eq]
  proper := by
    intro other seen
    rw [TransitionTable.addTransition, Tally.count_add] at seen
    by_cases same : transition = other
    · exact same ▸ proper
    · exact consistent.proper (by simpa [same] using seen)

theorem takeTransition (consistent : Consistent table) (transition : Transition) (amount : Nat) :
    Consistent (table.takeTransition transition amount) where
  counts_pos := consistent.counts_pos.take transition amount
  outgoing_pos := consistent.outgoing_pos.take transition.source _
  -- As much is taken from the total as from the count.
  outgoing_count := by
    intro token
    simp only [TransitionTable.takeTransition, Tally.count_take, Tally.weigh_take,
      consistent.outgoing_count, decide_eq_true_eq]
  proper := by
    intro other seen
    rw [TransitionTable.takeTransition, Tally.count_take] at seen
    exact consistent.proper (Nat.lt_of_lt_of_le seen (Nat.sub_le ..))

theorem addCounts (consistent : Consistent table) {reads : List (Transition × Nat)}
    (proper : ∀ read ∈ reads, read.1.Proper) : Consistent (table.addCounts reads) :=
  List.foldlRecOn reads _ consistent fun _ consistent read member =>
    consistent.addTransition (proper read member) read.2

theorem add (consistent : Consistent table) (sample : Text) : Consistent (table.add sample) := by
  have counted : Consistent (sample.transitions.foldl (·.addTransition · 1) table) :=
    List.foldlRecOn _ _ consistent fun _ consistent _ member =>
      consistent.addTransition (Text.proper_of_mem_transitions member) 1
  exact counted.withTotals ..

theorem subtract (consistent : Consistent table) (sample : Text) :
    Consistent (table.subtract sample) := by
  have counted : Consistent (sample.transitions.foldl (·.takeTransition · 1) table) :=
    List.foldlRecOn _ _ consistent fun _ consistent transition _ =>
      consistent.takeTransition transition 1
  exact counted.withTotals ..

theorem addTable (consistent : Consistent table) (other_consistent : Consistent other) :
    Consistent (table.addTable other) :=
  (consistent.addCounts fun _ => other_consistent.proper_of_mem).withTotals ..

theorem subtractTable (consistent : Consistent table) (other : TransitionTable) :
    Consistent (table.subtractTable other) := by
  have counted : Consistent (other.counts.toList.foldl (fun table entry =>
      table.takeTransition entry.1 entry.2) table) :=
    List.foldlRecOn _ _ consistent fun _ consistent entry _ =>
      consistent.takeTransition entry.1 entry.2
  exact counted.withTotals ..

end Consistent

theorem Reachable.consistent (reachable : Reachable table) : Consistent table := by
  induction reachable with
  | empty => exact consistent_empty
  | ofSnapshot accepted =>
    obtain ⟨-, reads, all, rfl⟩ := ofSnapshot_eq_ok_iff.1 accepted
    exact (consistent_empty.addCounts (proper_of_reads all)).withTotals ..
  | add sample _ ih => exact ih.add sample
  | subtract sample _ ih => exact ih.subtract sample
  | addTable _ _ ih other_ih => exact ih.addTable other_ih
  | subtractTable _ _ ih _ => exact ih.subtractTable _

end TransitionTable

end MailSort
