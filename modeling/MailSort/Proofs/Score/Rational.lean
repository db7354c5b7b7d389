import MailSort.Score
import Mathlib.Algebra.Order.BigOperators.Group.List
import Mathlib.Algebra.Order.Field.Rat
import Mathlib.Data.Nat.Cast.Order.Field
import Mathlib.Tactic.Linarith

/-! # Scores as rational numbers

Over the rational numbers the operations of scores are those of arithmetic, with its laws.
-/

namespace MailSort

namespace Score

variable {scores : List Rat} {score bound low high : Rat}

theorem zero_eq : (zero : Rat) = 0 :=
  rfl

theorem one_eq : (one : Rat) = 1 :=
  rfl

theorem ofNat_eq (count : Nat) : (ofNat count : Rat) = count :=
  rfl

theorem ratio_eq (part total : Nat) : (ratio part total : Rat) = part / total :=
  rfl

/-! ## Means -/

theorem mean_eq (scores : List Rat) : mean scores = scores.sum / scores.length := by
  have added : (sum scores : Rat) = scores.sum := List.sum_eq_foldl.symm
  rw [mean, added, ofNat_eq]

theorem length_mul_mean (scores : List Rat) : scores.length * mean scores = scores.sum := by
  cases scores with
  | nil => simp
  | cons first rest =>
    rw [mean_eq]
    exact mul_div_cancel₀ _ (Nat.cast_ne_zero.2 (Nat.succ_ne_zero _))

theorem mean_nonneg (nonneg : ∀ score ∈ scores, 0 ≤ score) : 0 ≤ mean scores := by
  rw [mean_eq]
  exact div_nonneg (List.sum_nonneg nonneg) (Nat.cast_nonneg _)

theorem mean_pos (some : scores ≠ []) (positive : ∀ score ∈ scores, 0 < score) :
    0 < mean scores := by
  rw [mean_eq]
  have many : (0 : Rat) < scores.length := Nat.cast_pos.2 (List.length_pos_iff.2 some)
  exact div_pos (List.sum_pos scores positive some) many

/-- Scores of which none is above 1 have the mean 1 only if each of them is 1. -/
theorem mean_eq_one_iff (some : scores ≠ []) (all : ∀ score ∈ scores, score ≤ 1) :
    mean scores = 1 ↔ ∀ score ∈ scores, score = 1 := by
  have full : scores.sum = scores.length ↔ ∀ score ∈ scores, score = 1 := by
    clear some
    induction scores with
    | nil => simp
    | cons first rest ih =>
      rw [List.forall_mem_cons] at all
      have room : rest.sum ≤ rest.length := by
        simpa using List.sum_le_card_nsmul rest 1 all.2
      rw [List.sum_cons, List.length_cons, Nat.cast_succ, List.forall_mem_cons, ← ih all.2]
      constructor
      · intro same
        have first_full : first = 1 := le_antisymm all.1 (by linarith)
        exact ⟨first_full, by linarith⟩
      · rintro ⟨rfl, same⟩
        rw [same, add_comm]
  have many : (scores.length : Rat) ≠ 0 := Nat.cast_ne_zero.2 (List.length_pos_iff.2 some).ne'
  rw [mean_eq, div_eq_one_iff_eq many, full]

/-! ## The highest -/

theorem higher_eq (first second : Rat) : higher first second = max first second := by
  rw [higher, max_def_lt]

theorem highest_le_iff : highest scores ≤ bound ↔ 0 ≤ bound ∧ ∀ score ∈ scores, score ≤ bound := by
  have folded (held : Rat) :
      scores.foldl higher held ≤ bound ↔ held ≤ bound ∧ ∀ score ∈ scores, score ≤ bound := by
    induction scores generalizing held with
    | nil => simp
    | cons first rest ih =>
      rw [List.foldl_cons, ih, higher_eq, max_le_iff, List.forall_mem_cons, and_assoc]
  exact folded zero

theorem highest_nonneg (scores : List Rat) : 0 ≤ highest scores :=
  (highest_le_iff.1 le_rfl).1

theorem le_highest (member : score ∈ scores) : score ≤ highest scores :=
  (highest_le_iff.1 le_rfl).2 score member

/-- The highest is one of the scores, unless none of them is above 0. -/
theorem highest_mem (positive : 0 < highest scores) : highest scores ∈ scores := by
  have folded (held : Rat) : scores.foldl higher held ∈ held :: scores := by
    clear positive
    induction scores generalizing held with
    | nil => exact List.mem_cons_self
    | cons first rest ih =>
      rw [List.foldl_cons]
      obtain kept | later := List.mem_cons.1 (ih (higher held first))
      · rw [kept, higher_eq]
        obtain above | below := max_choice held first
        · rw [above]
          exact List.mem_cons_self
        · rw [below]
          exact List.mem_cons_of_mem _ List.mem_cons_self
      · exact List.mem_cons_of_mem _ (List.mem_cons_of_mem _ later)
  exact (List.mem_cons.1 (folded zero)).resolve_left positive.ne'

/-! ## Clamping -/

theorem clamp_eq (score : Rat) : clamp score = max 0 (min score 1) := by
  rw [clamp, zero_eq, one_eq]
  grind

theorem clamp_nonneg (score : Rat) : 0 ≤ clamp score := by
  rw [clamp_eq]
  exact le_max_left ..

theorem clamp_le_one (score : Rat) : clamp score ≤ 1 := by
  rw [clamp_eq]
  exact max_le zero_le_one (min_le_right ..)

theorem clamp_pos (positive : 0 < score) : 0 < clamp score := by
  rw [clamp_eq]
  exact lt_max_of_lt_right (lt_min positive one_pos)

theorem clamp_of_one_le (full : 1 ≤ score) : clamp score = 1 := by
  rw [clamp_eq, min_eq_right full, max_eq_right zero_le_one]

theorem clamp_of_mem_Icc (inside : score ∈ Set.Icc 0 1) : clamp score = score := by
  rw [clamp_eq, min_eq_left inside.2, max_eq_right inside.1]

theorem clamp_mono (below : low ≤ high) : clamp low ≤ clamp high := by
  rw [clamp_eq, clamp_eq]
  exact max_le_max_left 0 (min_le_min_right 1 below)

/-! ## Between 0 and 1 -/

theorem clamp_mem_Icc (score : Rat) : clamp score ∈ Set.Icc 0 1 :=
  ⟨clamp_nonneg score, clamp_le_one score⟩

theorem ratio_mem_Icc {part total : Nat} (inside : part ≤ total) :
    (ratio part total : Rat) ∈ Set.Icc 0 1 := by
  rw [ratio_eq]
  have total_nonneg : (0 : Rat) ≤ total := Nat.cast_nonneg total
  exact ⟨div_nonneg (Nat.cast_nonneg part) total_nonneg,
    div_le_one_of_le₀ (Nat.cast_le.2 inside) total_nonneg⟩

theorem mean_mem_Icc (all : ∀ score ∈ scores, score ∈ Set.Icc 0 1) :
    mean scores ∈ Set.Icc 0 1 := by
  constructor
  · exact mean_nonneg fun score member => (all score member).1
  · rw [mean_eq]
    refine div_le_one_of_le₀ ?_ (Nat.cast_nonneg scores.length)
    calc scores.sum
      _ ≤ scores.length • 1 := List.sum_le_card_nsmul scores 1 fun score member =>
          (all score member).2
      _ = scores.length := nsmul_one _

theorem highest_mem_Icc (all : ∀ score ∈ scores, score ≤ 1) : highest scores ∈ Set.Icc 0 1 :=
  ⟨highest_nonneg scores, highest_le_iff.2 ⟨zero_le_one, all⟩⟩

end Score

end MailSort
