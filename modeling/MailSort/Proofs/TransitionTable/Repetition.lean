import MailSort.Proofs.TransitionTable.Probability
import Mathlib.Algebra.Order.BigOperators.Group.Finset
import Mathlib.Tactic.FieldSimp
import Mathlib.Tactic.Ring

/-! # Counting a text once more

A text that is counted once more changes the probabilities of the transitions from its tokens.
Each new probability lies between the one before and the one that the transition has in the text
alone (`TransitionTable.Consistent.probability_add`).  So the text gains in confidence what these
steps add up to (`TransitionTable.gain`).

Where a text goes on from one token in different ways, one of them may lose what another gains.
Together they lose only if the table finds them more probable than the text alone does
(`TransitionTable.Outdoes`).  No table does if the text takes all of them equally often
(`Text.Uniform`).
-/

namespace MailSort

namespace Text

def leaving (text : Text) (token : Token) : List Transition :=
  text.transitions.filter (·.source = token)

/-- Wherever a text goes on from one token in different ways, it takes all of them equally often. -/
def Uniform (text : Text) : Prop :=
  ∀ first ∈ text.transitions, ∀ second ∈ text.transitions, first.source = second.source →
    text.transitions.count first = text.transitions.count second
  deriving Decidable

variable {text : Text} {token : Token} {transition : Transition}

theorem source_of_mem_leaving (member : transition ∈ text.leaving token) :
    transition.source = token :=
  of_decide_eq_true (List.mem_filter.1 member).2

theorem count_leaving (member : transition ∈ text.leaving token) :
    (text.leaving token).count transition = text.transitions.count transition :=
  List.count_filter (List.mem_filter.1 member).2

theorem sum_count_leaving (text : Text) (token : Token) :
    ∑ transition ∈ (text.leaving token).toFinset, text.transitions.count transition =
      (text.leaving token).length := by
  rw [← List.sum_toFinset_count_eq_length]
  exact Finset.sum_congr rfl fun transition member =>
    (count_leaving (List.mem_toFinset.1 member)).symm

end Text

namespace TransitionTable

/-- The share that a text has in what leaves a token, once the text has been counted. -/
def renewal (table : TransitionTable) (text : Text) (token : Token) : Rat :=
  Score.ratio (text.leaving token).length ((table.add text).outgoing.count token)

def gain (table : TransitionTable) (text : Text) : Rat :=
  Score.mean <| text.transitions.map fun transition =>
    ((ofSamples [text]).probability transition - table.probability transition) *
      table.renewal text transition.source

def likelihood (table : TransitionTable) (text : Text) (token : Token) : Rat :=
  Score.mean ((text.leaving token).map table.probability)

/-- From some token, a text goes on in ways that are more probable in the table than in a table
    of the text alone. -/
def Outdoes (table : TransitionTable) (text : Text) : Prop :=
  ∃ transition ∈ text.transitions,
    (ofSamples [text]).likelihood text transition.source <
      table.likelihood text transition.source
  deriving Decidable

variable {table : TransitionTable} {text : Text} {token : Token}

/-! ## From the old probability to the new one -/

theorem count_alone (text : Text) (transition : Transition) :
    (ofSamples [text]).counts.count transition = text.transitions.count transition :=
  (count_add empty text transition).trans (Nat.zero_add _)

theorem outgoing_add_leaving (table : TransitionTable) (text : Text) (token : Token) :
    (table.add text).outgoing.count token =
      table.outgoing.count token + (text.leaving token).length := by
  rw [outgoing_add, Text.leaving, List.countP_eq_length_filter]

theorem outgoing_alone (text : Text) (token : Token) :
    (ofSamples [text]).outgoing.count token = (text.leaving token).length :=
  (outgoing_add_leaving empty text token).trans (Nat.zero_add _)

/-- A share in two totals together lies between the shares in each of them. -/
theorem ratio_add {part total more all : Nat} (inside : part ≤ total) (more_inside : more ≤ all) :
    ((part + more : Nat) : Rat) / (total + all : Nat) =
      part / total + (more / all - part / total) * (all / (total + all : Nat)) := by
  obtain rfl | all_pos := Nat.eq_zero_or_pos all
  · simp [Nat.le_zero.1 more_inside]
  · have all_ne : (all : Rat) ≠ 0 := Nat.cast_ne_zero.2 all_pos.ne'
    push_cast
    obtain rfl | total_pos := Nat.eq_zero_or_pos total
    · -- The first share is 0 by division by 0.
      rw [Nat.le_zero.1 inside]
      field_simp
      simp
    · have total_ne : (total : Rat) ≠ 0 := Nat.cast_ne_zero.2 total_pos.ne'
      have together_ne : (total + all : Rat) ≠ 0 := by positivity
      field_simp
      ring

theorem Consistent.probability_add (consistent : Consistent table) (text : Text)
    (transition : Transition) :
    ((table.add text).probability transition : Rat) =
      table.probability transition +
        ((ofSamples [text]).probability transition - table.probability transition) *
          table.renewal text transition.source := by
  have inside := consistent.count_le transition
  have alone := (consistent_ofSamples [text]).count_le transition
  rw [count_alone, outgoing_alone] at alone
  rw [probability_eq, probability_eq, probability_eq, renewal, Score.ratio_eq,
    outgoing_add_leaving, count_add, count_alone, outgoing_alone]
  exact ratio_add inside alone

theorem Consistent.confidence_add (consistent : Consistent table) (text : Text) :
    ((table.add text).confidence text : Rat) = table.confidence text + table.gain text := by
  have each : text.transitions.map (table.add text).probability =
      text.transitions.map fun transition =>
        (table.probability transition : Rat) +
          ((ofSamples [text]).probability transition - table.probability transition) *
            table.renewal text transition.source :=
    List.map_congr_left fun transition _ => consistent.probability_add text transition
  simp only [confidence, gain, Score.mean_eq, each, List.sum_map_add, List.length_map, add_div]

/-- A text may lose by being counted: here `a` and `b` are followed by different characters. -/
example : (ofSamples ["ab".toList, "cd".toList]).gain "abaab".toList < 0 := by
  decide +kernel

/-! ## Token by token -/

theorem sum_map_by_key {ι κ : Type} [DecidableEq κ] (key : ι → κ) (value : ι → Rat)
    (items : List ι) {keys : Finset κ} (keyed : ∀ item ∈ items, key item ∈ keys) :
    (items.map value).sum = ∑ k ∈ keys, ((items.filter (key · = k)).map value).sum := by
  induction items with
  | nil => simp
  | cons item items ih =>
    rw [List.forall_mem_cons] at keyed
    have by_key (k : κ) : (((item :: items).filter (key · = k)).map value).sum =
        (if key item = k then value item else 0) + ((items.filter (key · = k)).map value).sum := by
      by_cases same : key item = k <;> simp [same]
    -- Of all keys only that of the first item gets its value.
    simp only [by_key, Finset.sum_add_distrib, Finset.sum_ite_eq, if_pos keyed.1, ← ih keyed.2]
    rw [List.map_cons, List.sum_cons]

theorem length_mul_likelihood (table : TransitionTable) (text : Text) (token : Token) :
    (text.leaving token).length * table.likelihood text token =
      ((text.leaving token).map table.probability).sum := by
  rw [likelihood, ← List.length_map (f := table.probability (α := Rat)), Score.length_mul_mean]

theorem sum_gain_leaving (table : TransitionTable) (text : Text) (token : Token) :
    ((text.leaving token).map fun transition =>
      ((ofSamples [text]).probability transition - table.probability transition) *
        table.renewal text transition.source).sum =
      (text.leaving token).length *
        ((ofSamples [text]).likelihood text token - table.likelihood text token) *
        table.renewal text token := by
  have together := List.sum_map_add (l := text.leaving token) (g := table.probability (α := Rat))
    (f := fun way => (ofSamples [text]).probability way - table.probability way)
  simp only [sub_add_cancel] at together
  -- All these transitions have the token as their source, so the renewal is a common factor.
  rw [mul_sub, length_mul_likelihood, length_mul_likelihood, sub_eq_of_eq_add together,
    ← List.sum_map_mul_right]
  refine congrArg List.sum (List.map_congr_left fun transition member => ?_)
  rw [Text.source_of_mem_leaving member]

theorem gain_eq_sum (table : TransitionTable) (text : Text) :
    table.gain text =
      (∑ token ∈ (text.transitions.map (·.source)).toFinset,
        (text.leaving token).length *
          ((ofSamples [text]).likelihood text token - table.likelihood text token) *
          table.renewal text token) / text.transitions.length := by
  have keyed : ∀ transition ∈ text.transitions,
      transition.source ∈ (text.transitions.map (·.source)).toFinset :=
    fun transition member => List.mem_toFinset.2 (List.mem_map_of_mem member)
  rw [gain, Score.mean_eq, List.length_map, sum_map_by_key _ _ _ keyed]
  simp only [← sum_gain_leaving]
  rfl

theorem gain_nonneg (expected : ¬ table.Outdoes text) : 0 ≤ table.gain text := by
  rw [gain_eq_sum]
  refine div_nonneg (Finset.sum_nonneg fun token leaves => ?_) (Nat.cast_nonneg _)
  obtain ⟨transition, member, rfl⟩ := List.mem_map.1 (List.mem_toFinset.1 leaves)
  have at_least := sub_nonneg.2 (not_lt.1 fun above => expected ⟨transition, member, above⟩)
  have renewed : 0 ≤ table.renewal text transition.source := by
    rw [renewal, Score.ratio_eq]
    positivity
  exact mul_nonneg (mul_nonneg (Nat.cast_nonneg _) at_least) renewed

/-! ## Uniform texts -/

/-- Transitions that are taken equally often share what the table has counted for them. -/
theorem sum_probability_leaving (table : TransitionTable) (uniform : text.Uniform)
    {first : Transition} (inside : first ∈ text.leaving token) :
    ((text.leaving token).map (table.probability (α := Rat))).sum =
      text.transitions.count first *
        ((∑ transition ∈ (text.leaving token).toFinset, table.counts.count transition : Nat) /
          table.outgoing.count token) := by
  rw [Finset.sum_list_map_count]
  refine sum_probability table (fun transition member => ?_) fun transition member => ?_
  · exact Text.source_of_mem_leaving (List.mem_toFinset.1 member)
  · have taken := List.mem_toFinset.1 member
    rw [Text.count_leaving taken]
    apply uniform transition (List.mem_of_mem_filter taken) first (List.mem_of_mem_filter inside)
    rw [Text.source_of_mem_leaving taken, Text.source_of_mem_leaving inside]

theorem Consistent.not_outdoes (consistent : Consistent table) (uniform : text.Uniform) :
    ¬ table.Outdoes text := by
  rintro ⟨first, member, above⟩
  have inside : first ∈ text.leaving first.source := List.mem_filter.2 ⟨member, decide_eq_true rfl⟩
  have many : (0 : Rat) < (text.leaving first.source).length :=
    Nat.cast_pos.2 (List.length_pos_of_mem inside)
  have shares := mul_lt_mul_of_pos_left above many
  rw [length_mul_likelihood, length_mul_likelihood, sum_probability_leaving _ uniform inside,
    sum_probability_leaving _ uniform inside] at shares
  -- In the text alone nothing else leaves the token.
  simp only [count_alone, Text.sum_count_leaving, outgoing_alone, div_self many.ne'] at shares
  have leave : ∀ transition ∈ (text.leaving first.source).toFinset,
      transition.source = first.source := fun transition member =>
    Text.source_of_mem_leaving (List.mem_toFinset.1 member)
  have part := Nat.cast_le (α := Rat).2 (consistent.sum_count_le leave)
  have at_most := div_le_one_of_le₀ part (Nat.cast_nonneg _)
  exact shares.not_ge (mul_le_mul_of_nonneg_left at_most (Nat.cast_nonneg _))

end TransitionTable

end MailSort
