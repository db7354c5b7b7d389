import MailSort.Proofs.TransitionTable.Probability
import Mathlib.Algebra.BigOperators.Finprod

/-! # Transition tables as distributions

The two tallies of a table are kept separately, and subtraction may stop at 0 in either of them.
They still say the same: what leaves a token is the sum of the counts of its transitions.  So the
probabilities of what follows a token that was seen add up to 1, and a text has the confidence 1
only if nothing else was ever seen in the place of any of its transitions.
-/

namespace MailSort

namespace TransitionTable

variable {table : TransitionTable} {token : Token} {text : Text}

/-! ## Outgoing totals -/

theorem Consistent.contains_outgoing_iff (consistent : Consistent table) :
    table.outgoing.contains token ↔ ∃ entry ∈ table.counts.toList, entry.1.source = token := by
  rw [consistent.outgoing_pos.contains_iff, consistent.outgoing_count,
    Tally.weigh_pos_iff consistent.counts_pos]
  simp only [decide_eq_true_eq]

theorem Consistent.outgoing_eq_sum (consistent : Consistent table) (token : Token) :
    table.outgoing.count token =
      ((table.counts.toList.filter (·.1.source = token)).map Prod.snd).sum := by
  rw [consistent.outgoing_count, Tally.weigh_eq_sum]

/-! ## Probabilities -/

/-- The probabilities of what follows a token add up to 1. -/
theorem Consistent.finsum_probability (consistent : Consistent table)
    (seen : table.outgoing.contains token) :
    ∑ᶠ target, (table.probability ⟨token, target⟩ : Rat) = 1 := by
  have leaves : (table.outgoing.count token : Rat) ≠ 0 :=
    Nat.cast_ne_zero.2 (consistent.outgoing_pos.contains_iff.1 seen).ne'
  let transitions := (table.counts.toList.map Prod.fst).toFinset.filter (·.source = token)
  have leave : ∀ transition ∈ transitions, transition.source = token :=
    fun transition member => (Finset.mem_filter.1 member).2
  have counted : ∑ transition ∈ transitions, table.counts.count transition =
      table.outgoing.count token := by
    rw [Tally.sum_count, consistent.outgoing_count]
    refine Tally.weigh_congr fun entry member => ?_
    have listed : entry.1 ∈ table.counts.toList.map Prod.fst := List.mem_map_of_mem member
    simp [transitions, listed]
  have shares : ∑ transition ∈ transitions, (table.probability transition : Rat) = 1 := by
    have once : ∀ transition ∈ transitions, Function.const Transition 1 transition = 1 :=
      fun _ _ => rfl
    have shared := sum_probability table leave once
    simpa only [Function.const_apply, one_smul, Nat.cast_one, one_mul, counted,
      div_self leaves] using shared
  -- A token to which nothing has led has the probability 0.
  have supported : Function.support (fun target => (table.probability ⟨token, target⟩ : Rat)) ⊆
      transitions.image Transition.target := by
    intro target possible
    have some : 0 < table.counts.count ⟨token, target⟩ := by
      rw [Nat.pos_iff_ne_zero]
      intro unseen
      rw [Function.mem_support, probability_eq, unseen, Nat.cast_zero, zero_div] at possible
      contradiction
    have listed : ⟨token, target⟩ ∈ table.counts.toList.map Prod.fst :=
      List.mem_map_of_mem (Tally.mem_of_count_pos some)
    refine Finset.mem_coe.2 (Finset.mem_image.2 ⟨⟨token, target⟩, ?_, rfl⟩)
    exact Finset.mem_filter.2 ⟨List.mem_toFinset.2 listed, rfl⟩
  have whole {transition : Transition} (member : transition ∈ transitions) :
      ⟨token, transition.target⟩ = transition := by
    rw [← leave transition member]
  have apart : Set.InjOn Transition.target transitions := by
    intro first member second member' same
    rw [← whole member, ← whole member', same]
  rw [finsum_eq_sum_of_support_subset _ supported, Finset.sum_image apart, ← shares]
  exact Finset.sum_congr rfl fun transition member => by rw [whole member]

theorem Consistent.confidence_eq_one_iff (consistent : Consistent table) :
    (table.confidence text : Rat) = 1 ↔
      ∀ transition ∈ text.transitions, (table.probability transition : Rat) = 1 := by
  have some : text.transitions.map (table.probability : Transition → Rat) ≠ [] := by
    rw [ne_eq, List.map_eq_nil_iff]
    exact text.transitions_ne_nil
  have below : ∀ score ∈ text.transitions.map (table.probability : Transition → Rat),
      score ≤ 1 := by
    rw [List.forall_mem_map]
    exact fun transition _ => (consistent.probability_mem_Icc transition).2
  rw [confidence, Score.mean_eq_one_iff some below, List.forall_mem_map]

/-! ## Tables in use -/

/-- In a table that is in use every count is positive, exactly the sources of its transitions have
    a total, and the total is the sum of their counts.  So the probabilities from a token that was
    seen add up to 1, and a confidence is between 0 and 1 and is 1 only if all transitions of the
    text have the probability 1. -/
theorem Reachable.normalized (reachable : Reachable table) :
    (∀ entry ∈ table.counts.toList, 0 < entry.2) ∧
      (∀ token, table.outgoing.contains token ↔
        ∃ entry ∈ table.counts.toList, entry.1.source = token) ∧
      (∀ token, table.outgoing.count token =
        ((table.counts.toList.filter (·.1.source = token)).map Prod.snd).sum) ∧
      (∀ token, table.outgoing.contains token →
        ∑ᶠ target, (table.probability ⟨token, target⟩ : Rat) = 1) ∧
      ∀ text, (table.confidence text : Rat) ∈ Set.Icc 0 1 ∧
        ((table.confidence text : Rat) = 1 ↔
          ∀ transition ∈ text.transitions, (table.probability transition : Rat) = 1) := by
  have consistent := reachable.consistent
  refine ⟨consistent.counts_pos, fun _ => consistent.contains_outgoing_iff,
    consistent.outgoing_eq_sum, fun _ => consistent.finsum_probability, fun text => ?_⟩
  exact ⟨consistent.confidence_mem_Icc text, consistent.confidence_eq_one_iff⟩

/-- Of what is subtracted only the last transition was counted: its source is forgotten, and what
    follows the other tokens is not shared out anew. -/
theorem normalized_after_partial_subtraction :
    let table := ((empty.add "ab".toList).add "ac".toList).subtract "xc".toList
    Reachable table ∧ ¬table.outgoing.contains (.char 'c') ∧
      table.outgoing.contains (.char 'a') ∧
      ∑ᶠ target, (table.probability ⟨.char 'a', target⟩ : Rat) = 1 ∧
      (table.confidence "ab".toList : Rat) ∈ Set.Icc 0 1 ∧
      (table.confidence "ab".toList : Rat) ≠ 1 := by
  intro table
  have reachable : Reachable table := .subtract _ (.add _ (.add _ .empty))
  have seen : table.outgoing.contains (.char 'a') := by decide
  obtain ⟨-, -, -, sums, confident⟩ := reachable.normalized
  refine ⟨reachable, by decide, seen, sums _ seen, (confident _).1, fun full => ?_⟩
  have certain : (table.probability ⟨.char 'a', .char 'b'⟩ : Rat) = 1 :=
    (confident _).2.1 full _ (by decide)
  exact absurd certain (by decide +kernel)

end TransitionTable

end MailSort
