import MailSort.Proofs.TransitionTable.Counters
import Mathlib.Algebra.BigOperators.Group.List.Basic
import Mathlib.Algebra.Order.BigOperators.Group.List
import Mathlib.Algebra.Order.Ring.Nat

/-! # Tables in bulk

Samples can be added to a table one by one, or all at once as the table that is made of them, and
they can be taken away again in both ways.  Every counter is moved by the sum of what the samples
count for it, so neither the way nor the order matters (`Reachable.bulk_eq_one_by_one`).  The same
table comes from the documents of the samples' own tables.
-/

namespace MailSort

namespace TransitionTable

variable {table : TransitionTable} {sample : Text} {samples : List Text}

/-! ## Sample by sample -/

theorem reading_foldl_add (table : TransitionTable) (samples : List Text) (counter : Counter) :
    (samples.foldl add table).reading counter =
      table.reading counter + (samples.map (·.reading counter)).sum := by
  induction samples generalizing table with
  | nil => rfl
  | cons sample samples ih =>
    rw [List.foldl_cons, ih, reading_add, List.map_cons, List.sum_cons, Nat.add_assoc]

theorem reading_foldl_subtract (table : TransitionTable) (samples : List Text)
    (counter : Counter) :
    (samples.foldl subtract table).reading counter =
      table.reading counter - (samples.map (·.reading counter)).sum := by
  induction samples generalizing table with
  | nil => rfl
  | cons sample samples ih =>
    rw [List.foldl_cons, ih, reading_subtract, List.map_cons, List.sum_cons, Nat.sub_sub]

theorem reading_empty (counter : Counter) : empty.reading counter = 0 := by
  cases counter <;> rfl

theorem reading_ofSamples (samples : List Text) (counter : Counter) :
    (ofSamples samples).reading counter = (samples.map (·.reading counter)).sum := by
  rw [ofSamples, reading_foldl_add, reading_empty, Nat.zero_add]

theorem Consistent.foldl_add (consistent : Consistent table) (samples : List Text) :
    Consistent (samples.foldl TransitionTable.add table) :=
  List.foldlRecOn samples _ consistent fun _ consistent sample _ => consistent.add sample

theorem Consistent.foldl_subtract (consistent : Consistent table) (samples : List Text) :
    Consistent (samples.foldl TransitionTable.subtract table) :=
  List.foldlRecOn samples _ consistent fun _ consistent sample _ => consistent.subtract sample

/-! ## All at once -/

theorem Consistent.addTable_ofSamples (consistent : Consistent table) {reordered : List Text}
    (same : samples.Perm reordered) :
    table.addTable (ofSamples samples) = reordered.foldl TransitionTable.add table := by
  have added := consistent.addTable (consistent_ofSamples samples)
  refine added.ext_reading (consistent.foldl_add reordered) fun counter => ?_
  rw [reading_addTable, reading_ofSamples, reading_foldl_add, (same.map _).sum_eq]

theorem Consistent.subtractTable_ofSamples (consistent : Consistent table) {reordered : List Text}
    (same : samples.Perm reordered) :
    table.subtractTable (ofSamples samples) =
      reordered.foldl TransitionTable.subtract table := by
  have taken := consistent.subtractTable (ofSamples samples)
  refine taken.ext_reading (consistent.foldl_subtract reordered) fun counter => ?_
  rw [reading_subtractTable, reading_ofSamples, reading_foldl_subtract, (same.map _).sum_eq]

theorem ofSamples_of_perm {reordered : List Text} (same : samples.Perm reordered) :
    ofSamples samples = ofSamples reordered := by
  have together := consistent_empty.addTable_ofSamples (.refl samples)
  exact together.symm.trans (consistent_empty.addTable_ofSamples same)

/-! ## From snapshots -/

theorem bounded_iff_reading :
    table.Bounded ↔ ∀ counter, table.reading counter ≤ Text.largestCount := by
  constructor
  · intro bounded counter
    cases counter with
    | transition transition =>
      obtain unseen | some := Nat.eq_zero_or_pos (table.counts.count transition)
      · rw [reading, unseen]
        exact Nat.zero_le _
      · exact bounded.counts _ (Tally.mem_of_count_pos some)
    | length => exact bounded.length
    | samples => exact bounded.samples
  · intro below
    refine ⟨fun entry member => ?_, below .length, below .samples⟩
    rw [← Tally.count_of_mem member]
    exact below (.transition entry.1)

/-- What is counted for one of some samples is not more than what is counted for all of them. -/
theorem Bounded.of_mem (bounded : (ofSamples samples).Bounded) (member : sample ∈ samples) :
    (empty.add sample).Bounded := by
  rw [bounded_iff_reading] at bounded ⊢
  intro counter
  refine le_trans ?_ (bounded counter)
  rw [reading_add, reading_empty, Nat.zero_add, reading_ofSamples]
  exact List.le_sum_of_mem (List.mem_map_of_mem member)

theorem ofSnapshot_of_sample (sample : Text) :
    ofSnapshot (empty.add sample).snapshot = .ok (empty.add sample) := by
  refine (consistent_empty.add sample).ofSnapshot_snapshot (.inr ?_)
  rw [totalSamples_add]
  exact Nat.succ_pos _

theorem Consistent.addTable_of_sample (consistent : Consistent table) (sample : Text) :
    table.addTable (TransitionTable.empty.add sample) = table.add sample :=
  consistent.addTable_ofSamples (.refl [sample])

theorem ofSnapshots_of_samples (samples : List Text) :
    ofSnapshots (samples.map fun sample => (empty.add sample).snapshot) =
      .ok (ofSamples samples) := by
  -- By induction on the samples, for every table that the folding may have come to.
  have folded {table : TransitionTable} (consistent : Consistent table) :
      (samples.map fun sample => (empty.add sample).snapshot).foldlM
        (fun table snapshot => table.addTable <$> ofSnapshot snapshot) table =
      .ok (samples.foldl TransitionTable.add table) := by
    induction samples generalizing table with
    | nil => rfl
    | cons sample samples ih =>
      rw [List.map_cons, List.foldlM_cons, ofSnapshot_of_sample, List.foldl_cons,
        ← ih (consistent.add sample), ← consistent.addTable_of_sample]
      rfl
  exact folded consistent_empty

theorem parse_render_of_sample (bounded : (empty.add sample).Bounded) :
    Snapshot.parse (empty.add sample).render = .ok (empty.add sample).snapshot :=
  Snapshot.parse_render ((consistent_empty.add sample).bounded_snapshot bounded)

/-! ## Tables in use -/

/-- It does not matter whether samples are added, or subtracted, one by one in any order or all at
    once, and as long as no counter is too large to be read back, the documents of the samples'
    own tables make up the same table as the samples. -/
theorem Reachable.bulk_eq_one_by_one (reachable : Reachable table) {reordered : List Text}
    (same : samples.Perm reordered) :
    table.addTable (ofSamples samples) = reordered.foldl TransitionTable.add table ∧
      table.subtractTable (ofSamples samples) = reordered.foldl TransitionTable.subtract table ∧
      ((ofSamples samples).Bounded →
        samples.mapM (fun sample => Snapshot.parse (TransitionTable.empty.add sample).render) >>=
          ofSnapshots = .ok (ofSamples reordered)) := by
  have consistent := reachable.consistent
  refine ⟨consistent.addTable_ofSamples same, consistent.subtractTable_ofSamples same, ?_⟩
  intro bounded
  have read := Outcome.mapM_eq_ok fun sample member =>
    parse_render_of_sample (bounded.of_mem member)
  rw [read, ← ofSamples_of_perm same, ← ofSnapshots_of_samples]
  rfl

/-- More is subtracted than the table has of any counter, and one of the samples is empty. -/
theorem bulk_eq_one_by_one_in_reverse :
    let table := (empty.add "abab".toList).subtract "xyz".toList
    let samples := ["ab".toList, [], "\"ba".toList]
    Reachable table ∧ samples.Perm samples.reverse ∧ (ofSamples samples).Bounded ∧
      table.addTable (ofSamples samples) = samples.reverse.foldl TransitionTable.add table ∧
      table.subtractTable (ofSamples samples) =
        samples.reverse.foldl TransitionTable.subtract table ∧
      samples.mapM (fun sample => Snapshot.parse (TransitionTable.empty.add sample).render) >>=
        ofSnapshots = .ok (ofSamples samples.reverse) := by
  intro table samples
  have reachable : Reachable table := .subtract _ (.add _ .empty)
  have same : samples.Perm samples.reverse := (List.reverse_perm samples).symm
  have bounded : (ofSamples samples).Bounded := ⟨by decide, by decide, by decide⟩
  obtain ⟨added, subtracted, read⟩ := reachable.bulk_eq_one_by_one same
  exact ⟨reachable, same, bounded, added, subtracted, read bounded⟩

end TransitionTable

end MailSort
