import MailSort.Predictor.Sliding
import MailSort.Proofs.Sliding.Best
import MailSort.Proofs.Sliding.Bins

/-! # Overlaps with held headers

New headers overlap with all headers that are held and have characters.  The score is 0 just where
one of the two contains the other, and only such a score makes the confidence full
(`SlidingPredictor.confidence_eq_one_iff`).
-/

namespace MailSort

namespace SlidingPredictor

variable {candidate stored headers : Text} {held : List Text} {score : Rat}

theorem exists_overlapScore? (some : stored ≠ []) (some' : candidate ≠ []) :
    ∃ score : Rat, overlapScore? candidate stored = .some score ∧ (0 ≤ score ∧ score ≤ 1) ∧
      (score = 0 ↔ candidate <:+: stored ∨ stored <:+: candidate) := by
  obtain ⟨best, found, optimal⟩ := Overlap.exists_optimal some some'
  have inside : best.missed ≤ Overlap.shorterLength stored candidate := by
    rw [optimal.missed_eq]
    exact Nat.sub_le ..
  have scored : overlapScore? candidate stored = .some (best.score stored candidate : Rat) := by
    rw [overlapScore?, found, Option.map_some]
  exact ⟨_, scored, Score.ratio_mem_Icc inside,
    (optimal.score_eq_zero_iff some some').trans or_comm⟩

/-- Headers without characters have no score. -/
theorem ne_nil_of_overlapScore? (scored : overlapScore? candidate stored = some score) :
    stored ≠ [] ∧ candidate ≠ [] := by
  rw [← not_or]
  intro nothing
  rw [overlapScore?, Overlap.best?, if_pos nothing] at scored
  contradiction

theorem score_of_overlapScore? (scored : overlapScore? candidate stored = some score) :
    (0 ≤ score ∧ score ≤ 1) ∧
      (score = 0 ↔ candidate <:+: stored ∨ stored <:+: candidate) := by
  obtain ⟨some, some'⟩ := ne_nil_of_overlapScore? scored
  obtain ⟨found, same, known⟩ := exists_overlapScore? some some'
  cases same.symm.trans scored
  exact known

/-- Of some headers one has to contain the new ones or be contained in them for full confidence,
    and then there is full confidence. -/
theorem confidence_eq_one_iff (held : List Text) (candidate : Text) (bins : Nat) :
    Histogram.confidence (held.filterMap (overlapScore? candidate)) bins = (1 : Rat) ↔
      candidate ≠ [] ∧ ∃ stored ∈ held, stored ≠ [] ∧
        (candidate <:+: stored ∨ stored <:+: candidate) := by
  have shares : ∀ score ∈ held.filterMap (overlapScore? (α := Rat) candidate),
      0 ≤ score ∧ score ≤ 1 := by
    intro score member
    obtain ⟨stored, -, scored⟩ := List.mem_filterMap.1 member
    exact (score_of_overlapScore? scored).1
  rw [Histogram.confidence_eq_one_iff shares, List.mem_filterMap]
  constructor
  · rintro ⟨stored, member, scored⟩
    obtain ⟨some, some'⟩ := ne_nil_of_overlapScore? scored
    exact ⟨some', stored, member, some, (score_of_overlapScore? scored).2.1 rfl⟩
  · rintro ⟨some', stored, member, some, contained⟩
    obtain ⟨score, scored, -, zero⟩ := exists_overlapScore? some some'
    rw [zero.2 contained] at scored
    exact ⟨stored, member, scored⟩

/-- Headers that are held are found with full confidence. -/
theorem confidence_of_held (nonempty : headers ≠ []) (member : headers ∈ held) (bins : Nat) :
    Histogram.confidence (held.filterMap (overlapScore? headers)) bins = (1 : Rat) :=
  (confidence_eq_one_iff held headers bins).2
    ⟨nonempty, headers, member, nonempty, .inl List.infix_rfl⟩

end SlidingPredictor

end MailSort
