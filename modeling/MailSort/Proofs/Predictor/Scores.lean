import MailSort.Proofs.Predictor.Filed
import MailSort.Proofs.Predictor.Isolation
import MailSort.Proofs.Sliding.Histogram

/-! # Scores of all mailboxes

Whatever was asked before, headers are scored once with every mailbox that has been registered and
with no other, and every score is between 0 and 1 (`Predictor.run_scores_bounded`).  The template
predictor holds no score back: it takes the mean of confidences that are means of probabilities, or
shares of the headers, and these are between 0 and 1 in every model that was made from arrivals.
-/

namespace MailSort

namespace Predictor

/-! ## Which mailboxes -/

theorem isSome_get?_scores {α : Type} [Score α] (predictor : Predictor α) (headers mailbox : Text) :
    ((predictor.scores headers).get? mailbox).isSome = predictor.knows mailbox := by
  cases predictor with
  | sliding predictor =>
    rw [scores, SlidingPredictor.scores, SortedMap.get?_mapValues, Option.isSome_map, knows]
  | template predictor =>
    rw [scores, TemplatePredictor.scores, SortedMap.get?_mapValues, Option.isSome_map, knows]
  | cluster predictor =>
    rw [scores, ClusterPredictor.scores, SortedMap.get?_mapValues, Option.isSome_map, knows]

section Bounds

variable [Compiler] {predictor : Predictor Rat} {headers mailbox : Text} {score : Rat}

/-! ## Which scores -/

theorem score_mem_Icc_of_template {predictor : TemplatePredictor}
    (made : (template predictor : Predictor Rat).MadeOfArrivals)
    (scored : ((template predictor : Predictor Rat).scores headers).get? mailbox = some score) :
    score ∈ Set.Icc 0 1 := by
  rw [scores, TemplatePredictor.scores, SortedMap.get?_mapValues, Option.map_eq_some_iff] at scored
  obtain ⟨models, known, rfl⟩ := scored
  obtain ⟨log, -, built⟩ := made known
  split
  · exact ⟨le_rfl, zero_le_one⟩
  · refine Score.mean_mem_Icc fun confidence member => ?_
    obtain ⟨model, inside, rfl⟩ := List.mem_map.1 member
    obtain ⟨least, _, step⟩ := Outcome.exists_of_mem_mapM built inside
    obtain ⟨length, -, step⟩ := Outcome.bind_eq_ok_iff.1 step
    exact (TemplateModel.build_eq_ok_iff.1 step).1.confidence_mem_Icc headers

theorem MadeOfArrivals.score_mem_Icc (made : predictor.MadeOfArrivals)
    (scored : (predictor.scores headers).get? mailbox = some score) : score ∈ Set.Icc 0 1 := by
  cases predictor with
  | sliding predictor =>
    rw [scores, SlidingPredictor.scores, SortedMap.get?_mapValues, Option.map_eq_some_iff] at scored
    obtain ⟨held, -, rfl⟩ := scored
    exact Histogram.confidence_mem_Icc _ _
  | template predictor => exact score_mem_Icc_of_template made scored
  | cluster predictor =>
    rw [scores, ClusterPredictor.scores, SortedMap.get?_mapValues, Option.map_eq_some_iff] at scored
    obtain ⟨model, -, rfl⟩ := scored
    exact Score.clamp_mem_Icc _

/-- No mailbox is scored twice, the mailboxes that are scored are those that were registered
    successfully, and every score is between 0 and 1. -/
theorem run_scores_bounded (settings : Settings Rat) (kind : PredictorKind)
    (requests : List Request) (headers : Text) :
    ((((ofKind settings kind).run requests).scores headers).toList.map Prod.fst).Nodup ∧
      (∀ mailbox,
        mailbox ∈ (((ofKind settings kind).run requests).scores headers).toList.map Prod.fst ↔
          ∃ held, (Request.consider mailbox held, .ok ()) ∈
            (ofKind settings kind).answers requests) ∧
      ∀ entry ∈ (((ofKind settings kind).run requests).scores headers).toList,
        0 ≤ entry.2 ∧ entry.2 ≤ 1 := by
  have made := (madeOfArrivals_ofKind settings kind).run requests
  refine ⟨(SortedMap.ascending _).distinct, fun mailbox => ?_, fun entry member => ?_⟩
  · have unknown : ¬ (ofKind settings kind).knows mailbox := by
      cases kind <;> exact Bool.false_ne_true
    rw [← SortedMap.isSome_get?_iff, isSome_get?_scores, knows_run]
    exact or_iff_right unknown
  · exact made.score_mem_Icc (SortedMap.get?_eq_some_iff.2 member)

end Bounds

/-- One mailbox holds nothing, and headers could not be added to another. -/
theorem run_scores_bounded_after_failure :
    ∃ requests : List Request,
      requests = [.consider "Ids".toList ["id=1;ok".toList, "id=22;ok".toList],
        .add "id=3;ok".toList "Unknown".toList, .consider "Empty".toList []] ∧
      (((ofKind .standard .template).run requests).scores "id=21;ok".toList).toList =
        [("Empty".toList, (0 : Rat)), ("Ids".toList, 7 / 8)] ∧
      ((0 : Rat) ≤ 7 / 8 ∧ (7 / 8 : Rat) ≤ 1) ∧
      ¬ ∃ held, (Request.consider "Unknown".toList held, .ok ()) ∈
        (ofKind .standard .template : Predictor Rat).answers requests := by
  obtain ⟨requests, listed⟩ : ∃ requests : List Request,
      requests = [.consider "Ids".toList ["id=1;ok".toList, "id=22;ok".toList],
        .add "id=3;ok".toList "Unknown".toList, .consider "Empty".toList []] :=
    ⟨_, rfl⟩
  have scored : (((ofKind .standard .template).run requests).scores "id=21;ok".toList).toList =
      [("Empty".toList, (0 : Rat)), ("Ids".toList, 7 / 8)] := by
    rw [listed]
    decide +kernel
  obtain ⟨-, mailboxes, bounded⟩ :=
    run_scores_bounded .standard .template requests "id=21;ok".toList
  have last : ("Ids".toList, (7 / 8 : Rat)) ∈
      (((ofKind .standard .template).run requests).scores "id=21;ok".toList).toList := by
    rw [scored]
    exact List.mem_cons_of_mem _ List.mem_cons_self
  refine ⟨requests, listed, scored, bounded _ last, ?_⟩
  rw [← mailboxes, scored]
  decide

end Predictor

end MailSort
