import MailSort.Proofs.Score.Rational
import MailSort.Proofs.Score.Separation
import Mathlib.Data.List.Perm.Basic

/-! # Histograms of scores in any order

The confidence in scores does not depend on their order (`Histogram.confidence_of_perm`).  The
edges of a histogram and its fullest bin are found by keeping the better of two, one after the
other.  Where only equal ones are equally good, nothing but the best of all can be left in the
end (`Ranked.foldl_keep_eq`).
-/

namespace MailSort

/-! ## Keeping the better one -/

section Keep

variable {β : Type} {better : β → β → Prop} [DecidableRel better]

def keep (better : β → β → Prop) [DecidableRel better] (first second : β) : β :=
  if better second first then second else first

/-- Some of which one is better than the other, unless they are equal. -/
structure Ranked (better : β → β → Prop) (candidates : List β) : Prop where
  irrefl (candidate : β) : ¬ better candidate candidate
  trans {first second third : β} : better first second → better second third → better first third
  eq_of_neither {first second : β} : first ∈ candidates → second ∈ candidates →
    ¬ better first second → ¬ better second first → first = second

omit [DecidableRel better] in
theorem Ranked.of_subset {candidates others : List β} (ranked : Ranked better candidates)
    (subset : others ⊆ candidates) : Ranked better others :=
  ⟨ranked.irrefl, ranked.trans, fun first second =>
    ranked.eq_of_neither (subset first) (subset second)⟩

theorem foldl_keep_mem (first : β) (rest : List β) :
    rest.foldl (keep better) first ∈ first :: rest := by
  induction rest generalizing first with
  | nil => exact List.mem_cons_self
  | cons second rest ih =>
    rw [List.foldl_cons]
    rcases List.mem_cons.1 (ih (keep better first second)) with same | later
    · rw [same, keep]
      split <;> simp
    · exact List.mem_cons_of_mem _ (List.mem_cons_of_mem _ later)

theorem Ranked.not_better_keep {first second : β} {candidates : List β}
    (ranked : Ranked better candidates) :
    ¬ better first (keep better first second) ∧ ¬ better second (keep better first second) := by
  rw [keep]
  split
  · next above =>
    exact ⟨fun below => ranked.irrefl first (ranked.trans below above), ranked.irrefl second⟩
  · next above => exact ⟨ranked.irrefl first, above⟩

/-- None is better than the one that is left. -/
theorem Ranked.not_better_foldl_keep {first : β} {rest : List β}
    (ranked : Ranked better (first :: rest)) :
    ∀ candidate ∈ first :: rest, ¬ better candidate (rest.foldl (keep better) first) := by
  induction rest generalizing first with
  | nil =>
    intro candidate member
    rw [List.mem_singleton.1 member]
    exact ranked.irrefl first
  | cons second rest ih =>
    let kept := keep better first second
    let best := rest.foldl (keep better) kept
    have subset : kept :: rest ⊆ first :: second :: rest := by
      intro candidate member
      rcases List.mem_cons.1 member with rfl | later
      · show keep better first second ∈ _
        rw [keep]
        split <;> simp
      · exact List.mem_cons_of_mem _ (List.mem_cons_of_mem _ later)
    have unbeaten : ∀ candidate ∈ kept :: rest, ¬ better candidate best :=
      ih (ranked.of_subset subset)
    -- What is better than the best would be better than the first one kept.
    have passes {candidate : β} (below : ¬ better candidate kept) : ¬ better candidate best := by
      intro above
      by_cases less : better best kept
      · exact below (ranked.trans above less)
      · have equal : kept = best :=
          (ranked.of_subset subset).eq_of_neither List.mem_cons_self (foldl_keep_mem kept rest)
            (unbeaten kept List.mem_cons_self) less
        exact below (equal ▸ above)
    intro candidate member
    rcases List.mem_cons.1 member with rfl | later
    · exact passes ranked.not_better_keep.1
    · rcases List.mem_cons.1 later with rfl | later
      · exact passes ranked.not_better_keep.2
      · exact unbeaten candidate (List.mem_cons_of_mem _ later)

/-- What is left depends only on what there was to choose from. -/
theorem Ranked.foldl_keep_eq {first first' : β} {rest rest' : List β}
    (ranked : Ranked better (first :: rest)) (same : (first :: rest).Perm (first' :: rest')) :
    rest.foldl (keep better) first = rest'.foldl (keep better) first' := by
  have ranked' := ranked.of_subset same.symm.subset
  have member : rest'.foldl (keep better) first' ∈ first :: rest :=
    same.symm.subset (foldl_keep_mem first' rest')
  exact ranked.eq_of_neither (foldl_keep_mem first rest) member
    (ranked'.not_better_foldl_keep _ (same.subset (foldl_keep_mem first rest)))
    (ranked.not_better_foldl_keep _ member)

end Keep

namespace Histogram

/-! ## The fullest bin -/

def Fuller (bins : List Nat) (bin other : Nat) : Prop :=
  bins.count other < bins.count bin ∨ (bins.count other = bins.count bin ∧ bin < other)

instance (bins : List Nat) : DecidableRel (Fuller bins) :=
  fun _ _ => inferInstanceAs (Decidable (_ ∨ _))

theorem ranked_fuller (bins candidates : List Nat) : Ranked (Fuller bins) candidates where
  irrefl bin fuller := by
    rw [Fuller] at fuller
    omega
  trans above below := by
    rw [Fuller] at above below ⊢
    omega
  eq_of_neither _ _ notAbove notBelow := by
    rw [Fuller] at notAbove notBelow
    omega

theorem fullest_cons (first : Nat) (rest : List Nat) :
    fullest (first :: rest) = rest.foldl (keep (Fuller (first :: rest))) first := by
  have again : keep (Fuller (first :: rest)) first first = first := ite_self first
  exact congrArg (rest.foldl (keep (Fuller (first :: rest)))) again

theorem fullest_of_perm {bins bins' : List Nat} (same : bins.Perm bins') :
    fullest bins = fullest bins' := by
  cases bins with
  | nil => rw [List.nil_perm.1 same]
  | cons first rest =>
    cases bins' with
    | nil => cases same.eq_nil
    | cons first' rest' =>
      have counts : Fuller (first :: rest) = Fuller (first' :: rest') := by
        funext bin other
        rw [Fuller, Fuller, same.count_eq, same.count_eq]
      rw [fullest_cons, fullest_cons, (ranked_fuller _ _).foldl_keep_eq same]
      congr! 3

/-! ## The edges -/

variable {α : Type} [Score α] [Score.Separated α] {scores scores' : List α}

theorem ranked_lt (numbers : ∀ score ∈ scores, Score.isNumber score ∧ ¬ isZero score) :
    Ranked (fun first second : α => first < second) scores where
  irrefl := Score.Separated.lt_irrefl
  trans := Score.Separated.lt_trans
  eq_of_neither here there :=
    Score.Separated.eq_of_not_lt (numbers _ here).1 (numbers _ here).2 (numbers _ there).1
      (numbers _ there).2

theorem ranked_gt (numbers : ∀ score ∈ scores, Score.isNumber score ∧ ¬ isZero score) :
    Ranked (fun first second : α => second < first) scores where
  irrefl := Score.Separated.lt_irrefl
  trans above below := Score.Separated.lt_trans below above
  eq_of_neither here there notAbove notBelow :=
    (ranked_lt numbers).eq_of_neither here there notBelow notAbove

theorem confidence_of_perm (same : scores.Perm scores') (bins : Nat) :
    confidence scores bins = confidence scores' bins := by
  have binned (histogram : Histogram α) :
      fullest (scores.map histogram.bin) = fullest (scores'.map histogram.bin) :=
    fullest_of_perm (same.map histogram.bin)
  have zeros : scores.any isZero = scores'.any isZero := same.any_eq
  have listed := same.filter Score.isNumber
  rw [confidence, confidence, zeros]
  split
  · rfl
  · next nonzero =>
    have numbers : ∀ score ∈ scores.filter Score.isNumber,
        Score.isNumber score ∧ ¬ isZero score := by
      intro score member
      obtain ⟨found, number⟩ := List.mem_filter.1 member
      rw [← zeros, List.any_eq_true] at nonzero
      exact ⟨number, fun zero => nonzero ⟨score, found, zero⟩⟩
    cases filtered : scores.filter Score.isNumber with
    | nil =>
      rw [filtered] at listed
      rw [List.nil_perm.1 listed]
    | cons first rest =>
      cases filtered' : scores'.filter Score.isNumber with
      | nil =>
        rw [filtered, filtered'] at listed
        cases listed.eq_nil
      | cons first' rest' =>
        rw [filtered, filtered'] at listed
        rw [filtered] at numbers
        have lowest : rest.foldl lower first = rest'.foldl lower first' :=
          (ranked_lt numbers).foldl_keep_eq listed
        have highest : rest.foldl Score.higher first = rest'.foldl Score.higher first' :=
          (ranked_gt numbers).foldl_keep_eq listed
        simp only [lowest, highest, binned]

/-- Full confidence, none, or what has been held between them. -/
theorem confidence_mem_Icc (scores : List Rat) (bins : Nat) :
    confidence scores bins ∈ Set.Icc 0 1 := by
  rw [confidence]
  split
  · exact ⟨zero_le_one, le_rfl⟩
  · split
    · exact ⟨le_rfl, zero_le_one⟩
    · dsimp only
      split
      · exact Score.clamp_mem_Icc _
      · exact Score.clamp_mem_Icc _

end Histogram

end MailSort
