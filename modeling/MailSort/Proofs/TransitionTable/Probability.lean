import MailSort.Proofs.Score.Rational
import MailSort.Proofs.TransitionTable.Counting
import Mathlib.Algebra.BigOperators.Field

/-! # Probabilities of transitions

Over the rational numbers the probability of a transition is its share of what leaves its source.
A text whose transitions have all been counted has a confidence above 0.
-/

namespace MailSort

theorem Text.transitions_ne_nil (text : Text) : text.transitions ≠ [] := by
  cases text <;> exact List.cons_ne_nil _ _

namespace Tally

variable {κ : Type}

theorem weigh_mono {p q : κ → Bool} (implies : ∀ key, p key → q key)
    (entries : List (κ × Nat)) : weigh p entries ≤ weigh q entries := by
  induction entries with
  | nil => exact Nat.le_refl 0
  | cons entry entries ih =>
    refine Nat.add_le_add ?_ ih
    by_cases weighed : p entry.1
    · rw [if_pos weighed, if_pos (implies entry.1 weighed)]
    · rw [if_neg weighed]
      exact Nat.zero_le _

theorem weigh_eq_sum (p : κ → Bool) (entries : List (κ × Nat)) :
    weigh p entries = ((entries.filter fun entry => p entry.1).map Prod.snd).sum := by
  induction entries with
  | nil => rfl
  | cons entry entries ih =>
    rw [weigh, ih, List.filter_cons]
    split
    · rfl
    · exact Nat.zero_add _

/-- The counts of some keys add up to what these keys weigh. -/
theorem sum_count [Ord κ] [Std.LawfulEqOrd κ] [Std.TransOrd κ] [DecidableEq κ] (tally : Tally κ)
    (keys : Finset κ) : ∑ key ∈ keys, tally.count key = weigh (· ∈ keys) tally.toList := by
  have apart {key : κ} {keys : Finset κ} (new : key ∉ keys) (entries : List (κ × Nat)) :
      weigh (· ∈ insert key keys) entries = weigh (· = key) entries + weigh (· ∈ keys) entries := by
    induction entries with
    | nil => rfl
    | cons entry entries ih =>
      rw [weigh, weigh, weigh, ih]
      by_cases same : entry.1 = key
      · simp [same, new, Nat.add_assoc]
      · simp only [Finset.mem_insert, same, false_or]
        simp [Nat.add_left_comm]
  induction keys using Finset.induction_on with
  | empty => simp [weigh_eq_zero]
  | insert key keys new ih => rw [Finset.sum_insert new, ih, apart new, weigh_eq_count]

end Tally

namespace TransitionTable

variable {table : TransitionTable} {transition : Transition} {text : Text}

/-! ## Shares -/

theorem probability_eq (table : TransitionTable) (transition : Transition) :
    (table.probability transition : Rat) =
      table.counts.count transition / table.outgoing.count transition.source := by
  rw [probability]
  split
  · next nothing =>
    obtain unseen | none := nothing
    · rw [unseen, Nat.cast_zero, zero_div]
      rfl
    · rw [none, Nat.cast_zero, div_zero]
      rfl
  · rfl

/-- The transitions from a token count no more than what leaves it. -/
theorem Consistent.sum_count_le (consistent : Consistent table) {transitions : Finset Transition}
    {token : Token} (all : ∀ transition ∈ transitions, transition.source = token) :
    ∑ transition ∈ transitions, table.counts.count transition ≤ table.outgoing.count token := by
  rw [consistent.outgoing_count, Tally.sum_count]
  refine Tally.weigh_mono (fun transition member => ?_) _
  exact decide_eq_true (all transition (of_decide_eq_true member))

theorem Consistent.count_le (consistent : Consistent table) (transition : Transition) :
    table.counts.count transition ≤ table.outgoing.count transition.source := by
  have alone : ∀ other ∈ ({transition} : Finset Transition), other.source = transition.source := by
    simp
  simpa using consistent.sum_count_le alone

theorem Consistent.probability_pos (consistent : Consistent table)
    (seen : 0 < table.counts.count transition) : 0 < (table.probability transition : Rat) := by
  rw [probability_eq]
  have leaves := seen.trans_le (consistent.count_le transition)
  exact div_pos (Nat.cast_pos.2 seen) (Nat.cast_pos.2 leaves)

theorem Consistent.probability_mem_Icc (consistent : Consistent table) (transition : Transition) :
    (table.probability transition : Rat) ∈ Set.Icc 0 1 := by
  rw [probability_eq, ← Score.ratio_eq]
  exact Score.ratio_mem_Icc (consistent.count_le transition)

theorem Consistent.confidence_mem_Icc (consistent : Consistent table) (text : Text) :
    (table.confidence text : Rat) ∈ Set.Icc 0 1 := by
  refine Score.mean_mem_Icc fun score member => ?_
  obtain ⟨transition, -, rfl⟩ := List.mem_map.1 member
  exact consistent.probability_mem_Icc transition

theorem Consistent.confidence_pos (consistent : Consistent table)
    (seen : ∀ transition ∈ text.transitions, 0 < table.counts.count transition) :
    0 < (table.confidence text : Rat) := by
  refine Score.mean_pos ?_ fun score member => ?_
  · rw [ne_eq, List.map_eq_nil_iff]
    exact text.transitions_ne_nil
  · obtain ⟨transition, inside, rfl⟩ := List.mem_map.1 member
    exact consistent.probability_pos (seen transition inside)

/-- Transitions from one token that are taken equally often share what they have been counted. -/
theorem sum_probability (table : TransitionTable) {transitions : Finset Transition} {token : Token}
    {taken : Transition → Nat} {times : Nat}
    (leave : ∀ transition ∈ transitions, transition.source = token)
    (alike : ∀ transition ∈ transitions, taken transition = times) :
    ∑ transition ∈ transitions, taken transition • (table.probability transition : Rat) =
      times * ((∑ transition ∈ transitions, table.counts.count transition : Nat) /
        table.outgoing.count token) := by
  rw [Nat.cast_sum, Finset.sum_div, Finset.mul_sum]
  refine Finset.sum_congr rfl fun transition member => ?_
  rw [alike transition member, probability_eq, leave transition member, nsmul_eq_mul]

end TransitionTable

end MailSort
