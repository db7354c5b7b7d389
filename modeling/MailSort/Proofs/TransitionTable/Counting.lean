import MailSort.Proofs.TransitionTable.Consistency
import Mathlib.Data.List.Induction

/-! # What samples add to a table

A sample adds its own transitions to the counts, each as often as it has it, and one to the number
of samples.  So the totals of a table that is made of samples are those of its samples, and every
transition of one of them has been counted.
-/

namespace MailSort

namespace TransitionTable

variable {samples : List Text} {sample : Text} {transition : Transition}

/-! ## One sample -/

theorem count_foldl_addTransition (table : TransitionTable) (transitions : List Transition)
    (transition : Transition) :
    (transitions.foldl (addTransition · · 1) table).counts.count transition =
      table.counts.count transition + transitions.count transition := by
  induction transitions generalizing table with
  | nil => rfl
  | cons first rest ih =>
    rw [List.foldl_cons, ih, addTransition, Tally.count_add, List.count_cons]
    simp only [beq_iff_eq]
    omega

theorem outgoing_foldl_addTransition (table : TransitionTable) (transitions : List Transition)
    (token : Token) :
    (transitions.foldl (addTransition · · 1) table).outgoing.count token =
      table.outgoing.count token + transitions.countP (·.source = token) := by
  induction transitions generalizing table with
  | nil => rfl
  | cons first rest ih =>
    rw [List.foldl_cons, ih, addTransition, Tally.count_add, List.countP_cons]
    simp only [decide_eq_true_eq]
    omega

/-- Steps that leave the totals alone do so one after the other. -/
theorem totals_foldl {α : Type} (step : TransitionTable → α → TransitionTable)
    (keeps : ∀ table item, (step table item).totalLength = table.totalLength ∧
      (step table item).totalSamples = table.totalSamples)
    (table : TransitionTable) (items : List α) :
    (items.foldl step table).totalLength = table.totalLength ∧
      (items.foldl step table).totalSamples = table.totalSamples := by
  induction items generalizing table with
  | nil => exact ⟨rfl, rfl⟩
  | cons item items ih =>
    obtain ⟨length, samples⟩ := ih (step table item)
    exact ⟨length.trans (keeps table item).1, samples.trans (keeps table item).2⟩

theorem count_add (table : TransitionTable) (sample : Text) (transition : Transition) :
    (table.add sample).counts.count transition =
      table.counts.count transition + sample.transitions.count transition :=
  count_foldl_addTransition table sample.transitions transition

theorem outgoing_add (table : TransitionTable) (sample : Text) (token : Token) :
    (table.add sample).outgoing.count token =
      table.outgoing.count token + sample.transitions.countP (·.source = token) :=
  outgoing_foldl_addTransition table sample.transitions token

theorem totalLength_add (table : TransitionTable) (sample : Text) :
    (table.add sample).totalLength = table.totalLength + sample.length := by
  rw [add, (totals_foldl (addTransition · · 1) (fun _ _ => ⟨rfl, rfl⟩) table _).1]

theorem totalSamples_add (table : TransitionTable) (sample : Text) :
    (table.add sample).totalSamples = table.totalSamples + 1 := by
  rw [add, (totals_foldl (addTransition · · 1) (fun _ _ => ⟨rfl, rfl⟩) table _).2]

/-! ## All samples -/

theorem ofSamples_concat (samples : List Text) (sample : Text) :
    ofSamples (samples ++ [sample]) = (ofSamples samples).add sample := by
  rw [ofSamples, List.foldl_append]
  rfl

theorem consistent_ofSamples (samples : List Text) : Consistent (ofSamples samples) :=
  List.foldlRecOn samples _ consistent_empty fun _ consistent sample _ => consistent.add sample

theorem totalSamples_ofSamples (samples : List Text) :
    (ofSamples samples).totalSamples = samples.length := by
  induction samples using List.reverseRecOn with
  | nil => rfl
  | append_singleton samples sample ih =>
    rw [ofSamples_concat, totalSamples_add, ih, List.length_append, List.length_singleton]

theorem count_ofSamples_pos (member : sample ∈ samples) (has : transition ∈ sample.transitions) :
    0 < (ofSamples samples).counts.count transition := by
  induction samples using List.reverseRecOn with
  | nil => contradiction
  | append_singleton earlier last ih =>
    rw [ofSamples_concat, count_add]
    obtain old | new := List.mem_append.1 member
    · exact Nat.add_pos_left (ih old) _
    · rw [List.mem_singleton.1 new] at has
      exact Nat.add_pos_right _ (List.count_pos_iff.2 has)

end TransitionTable

end MailSort
