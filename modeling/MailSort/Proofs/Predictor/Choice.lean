import MailSort.Proofs.Predictor.Scores
import MailSort.Proofs.Score.Comparison
import Mathlib.Data.Char
import Mathlib.Order.Compare

/-! # The mailbox that headers belong to

Headers belong to the mailbox that scores highest with them.  The scores are looked at in the order
of the mailboxes' names, and a score that is only as high as an earlier one does not take its place,
so of several mailboxes with the highest score the one is chosen whose name comes first
(`Predictor.exists_foldl_better`).  A score of 0 does not count.

Scores need not be numbers to be looked at: what is no number is not above 0, so it takes no place
and is never chosen.
-/

namespace MailSort

/-- Names are ordered by the code points of their characters. -/
theorem Text.lt_of_compare {first second : Text} (before : compare first second = .lt) :
    first < second := by
  induction first generalizing second with
  | nil =>
    cases second with
    | nil => contradiction
    | cons d second => exact List.nil_lt_cons d second
  | cons c first ih =>
    cases second with
    | nil => contradiction
    | cons d second =>
      rw [List.compare_eq_compareLex, List.compareLex_cons_cons, ← List.compare_eq_compareLex,
        Ordering.then_eq_lt, compare_lt_iff_lt, compare_eq_iff_eq] at before
      exact List.cons_lt_cons_iff.2 (before.imp_right fun later => ⟨later.1, ih later.2⟩)

namespace Predictor

variable {α : Type} [Score α]

/-- A mailbox that scores above 0.  No number is above its score, and of the mailboxes with a score
    as high its name comes first. -/
structure Leads (ranking : SortedMap Text α) (mailbox : Text) (score : α) : Prop where
  scored : ranking.get? mailbox = some score
  positive : Score.zero < score
  highest {other : Text} {score' : α} : ranking.get? other = some score' →
    Score.isNumber score' → score' ≤ score
  first {other : Text} {score' : α} : ranking.get? other = some score' →
    score ≤ score' → other ≠ mailbox → mailbox < other

variable {ranking : SortedMap Text α} {mailbox other : Text} {score score' : α}

def candidates (ranking : SortedMap Text α) : List (Text × α) :=
  ranking.toList.filter fun scored => Score.zero < scored.2

theorem mem_candidates_iff :
    (mailbox, score) ∈ candidates ranking ↔
      ranking.get? mailbox = some score ∧ Score.zero < score := by
  rw [candidates, List.mem_filter, decide_eq_true_iff, SortedMap.get?_eq_some_iff]

variable [Score.Total α]

/-- Two mailboxes cannot both come first. -/
theorem Leads.unique (leads : Leads ranking mailbox score) (leads' : Leads ranking other score') :
    mailbox = other := by
  by_contra different
  have below := leads.highest leads'.scored (Score.Total.isNumber_of_lt leads'.positive).2
  have below' := leads'.highest leads.scored (Score.Total.isNumber_of_lt leads.positive).2
  have before := leads.first leads'.scored below' (Ne.symm different)
  exact List.lt_asymm before (leads'.first leads.scored below different)

/-- Nothing is above the one that is kept, and what is as high comes behind it. -/
theorem exists_foldl_better {held : Text × α} {rest : List (Text × α)}
    (ascending : Ascending (held :: rest))
    (numbers : ∀ entry ∈ held :: rest, Score.isNumber entry.2) :
    ∃ best ∈ held :: rest, rest.foldl better (some held) = some best ∧
      ∀ entry ∈ held :: rest, entry.2 ≤ best.2 ∧
        (best.2 ≤ entry.2 → entry = best ∨ compare best.1 entry.1 = .lt) := by
  induction rest generalizing held with
  | nil =>
    refine ⟨held, List.mem_cons_self, rfl, fun entry member => ?_⟩
    obtain rfl := List.mem_singleton.1 member
    exact ⟨Score.Total.le_refl (numbers entry List.mem_cons_self), fun _ => .inl rfl⟩
  | cons next rest ih =>
    obtain ⟨behind, later⟩ := List.pairwise_cons.1 ascending
    rw [List.forall_mem_cons, List.forall_mem_cons] at numbers
    obtain ⟨number, number', others⟩ := numbers
    rw [List.foldl_cons, better]
    split
    · next reaches =>
      have kept : Ascending (held :: rest) := ascending.sublist (by simp)
      obtain ⟨best, member, found, above⟩ := ih kept (List.forall_mem_cons.2 ⟨number, others⟩)
      have first := above held List.mem_cons_self
      refine ⟨best, List.mem_cons.2 ((List.mem_cons.1 member).imp_right (List.mem_cons_of_mem _)),
        found, ?_⟩
      rw [List.forall_mem_cons] at above
      rw [List.forall_mem_cons, List.forall_mem_cons]
      refine ⟨above.1, ⟨Score.Total.le_trans reaches first.1, fun level => .inr ?_⟩, above.2⟩
      -- The next one is as high as the best only if the one that is held is, too.
      have before := behind next List.mem_cons_self
      obtain rfl | ahead := first.2 (Score.Total.le_trans level reaches)
      · exact before
      · exact Std.TransCmp.lt_trans ahead before
    · next exceeds =>
      obtain ⟨best, member, found, above⟩ := ih later (List.forall_mem_cons.2 ⟨number', others⟩)
      have more := Score.Total.lt_of_not_le number number' exceeds
      have first := (above next List.mem_cons_self).1
      refine ⟨best, List.mem_cons_of_mem _ member, found, ?_⟩
      rw [List.forall_mem_cons]
      refine ⟨⟨Score.Total.le_trans (Score.Total.le_of_lt more) first, fun level => ?_⟩, above⟩
      exact absurd more (Score.Ordered.not_lt_of_le (Score.Total.le_trans first level))

theorem leads_of_above {best : Text × α} (member : best ∈ candidates ranking)
    (above : ∀ entry ∈ candidates ranking, entry.2 ≤ best.2 ∧
      (best.2 ≤ entry.2 → entry = best ∨ compare best.1 entry.1 = .lt)) :
    Leads ranking best.1 best.2 := by
  obtain ⟨scored, positive⟩ := mem_candidates_iff.1 member
  refine ⟨scored, positive, ?highest, ?first⟩
  case highest =>
    intro other score' scored' number
    by_cases positive' : Score.zero < score'
    · exact (above (other, score') (mem_candidates_iff.2 ⟨scored', positive'⟩)).1
    · -- What does not score above 0 is no candidate, but it is below the best through 0.
      have origin := (Score.Total.isNumber_of_lt positive).1
      have none : score' ≤ Score.zero := by
        by_contra notBelow
        exact positive' (Score.Total.lt_of_not_le origin number notBelow)
      exact Score.Total.le_trans none (Score.Total.le_of_lt positive)
  case first =>
    intro other score' scored' level different
    have positive' := Score.Ordered.lt_of_lt_of_le positive level
    obtain same | behind :=
      (above (other, score') (mem_candidates_iff.2 ⟨scored', positive'⟩)).2 level
    · exact absurd (congrArg Prod.fst same) different
    · exact Text.lt_of_compare behind

/-- Either no mailbox scores above 0, or the one that is chosen leads. -/
theorem bestOf?_eq_none_or_leads (ranking : SortedMap Text α) :
    bestOf? ranking = none ∧ candidates ranking = [] ∨
      ∃ mailbox score, bestOf? ranking = some mailbox ∧ Leads ranking mailbox score := by
  have sorted : Ascending (candidates ranking) := ranking.ascending.filter _
  have chosen : bestOf? ranking = ((candidates ranking).foldl better none).map Prod.fst := rfl
  rw [chosen]
  cases listed : candidates ranking with
  | nil => exact .inl ⟨rfl, rfl⟩
  | cons held rest =>
    have numbers : ∀ entry ∈ held :: rest, Score.isNumber entry.2 := by
      rw [← listed]
      exact fun entry member =>
        (Score.Total.isNumber_of_lt (mem_candidates_iff.1 member).2).2
    obtain ⟨best, member, found, above⟩ := exists_foldl_better (listed ▸ sorted) numbers
    have kept : (held :: rest).foldl better none = some best := found
    refine .inr ⟨best.1, best.2, by rw [kept, Option.map_some], ?_⟩
    rw [← listed] at member above
    exact leads_of_above member above

theorem bestOf?_eq_none_iff :
    bestOf? ranking = none ↔
      ∀ mailbox score, ranking.get? mailbox = some score → ¬ Score.zero < score := by
  obtain ⟨none, nothing⟩ | ⟨mailbox, score, found, leads⟩ := bestOf?_eq_none_or_leads ranking
  · refine iff_of_true none fun mailbox score scored positive => ?_
    have listed := mem_candidates_iff.2 ⟨scored, positive⟩
    rw [nothing] at listed
    contradiction
  · refine iff_of_false (by simp [found]) fun silent => ?_
    exact silent mailbox score leads.scored leads.positive

theorem bestOf?_eq_some_iff :
    bestOf? ranking = some mailbox ↔ ∃ score, Leads ranking mailbox score := by
  constructor
  · intro found
    obtain ⟨none, -⟩ | ⟨leader, score, found', leads⟩ := bestOf?_eq_none_or_leads ranking
    · rw [none] at found
      contradiction
    · obtain rfl := Option.some.inj (found'.symm.trans found)
      exact ⟨score, leads⟩
  · rintro ⟨score, leads⟩
    obtain ⟨none, -⟩ | ⟨leader, score', found, leads'⟩ := bestOf?_eq_none_or_leads ranking
    · exact absurd leads.positive (bestOf?_eq_none_iff.1 none mailbox score leads.scored)
    · rw [found, leads.unique leads']

/-- No mailbox is chosen exactly if none scores above 0.  Otherwise it is one of the registered
    mailboxes: the one that leads all others by its score and, where scores are level, by its
    name. -/
theorem folder?_leads (predictor : Predictor α) (headers : Text) :
    (predictor.folder? headers = none ↔
      ∀ mailbox score, (predictor.scores headers).get? mailbox = some score →
        ¬ Score.zero < score) ∧
    ∀ mailbox, predictor.folder? headers = some mailbox ↔
      predictor.knows mailbox ∧ ∃ score, Leads (predictor.scores headers) mailbox score := by
  refine ⟨bestOf?_eq_none_iff, fun mailbox => ?_⟩
  rw [folder?, bestOf?_eq_some_iff, iff_and_self]
  rintro ⟨score, leads⟩
  rw [← isSome_get?_scores predictor headers, leads.scored]
  rfl

/-- With floating-point scores, three of four mailboxes score above 0, and two of these as high. -/
theorem folder?_leads_of_tie :
    ∃ predictor : Predictor Float,
      predictor = (ofKind .standard .sliding).run [.consider "Work".toList ["ab".toList],
        .consider "News".toList ["xxab".toList], .consider "Ads".toList ["az".toList],
        .consider "Empty".toList []] ∧
      (predictor.scores "ab".toList).toList = [("Ads".toList, 0.5), ("Empty".toList, 0),
        ("News".toList, 1), ("Work".toList, 1)] ∧
      predictor.folder? "ab".toList = some "News".toList ∧
      predictor.knows "News".toList ∧
      ∃ score, Leads (predictor.scores "ab".toList) "News".toList score := by
  obtain ⟨predictor, same⟩ : ∃ predictor : Predictor Float,
      predictor = (ofKind .standard .sliding).run [.consider "Work".toList ["ab".toList],
        .consider "News".toList ["xxab".toList], .consider "Ads".toList ["az".toList],
        .consider "Empty".toList []] :=
    ⟨_, rfl⟩
  have chosen : predictor.folder? "ab".toList = some "News".toList := by
    rw [same]
    decide +kernel
  refine ⟨predictor, same, ?_, chosen, ((folder?_leads predictor "ab".toList).2 _).1 chosen⟩
  rw [same]
  decide +kernel

end Predictor

end MailSort
