import MailSort.Proofs.ClusterModel.Dilution
import MailSort.Proofs.Predictor.Clearing
import MailSort.Proofs.Predictor.Isolation

/-! # Recording mistakes

What resembles the mistakes made with a mailbox counts against it, so recording headers as a
mistake is meant to lower their score.  It never raises it, unless the headers dilute what they
resembled most among the mistakes (`Predictor.run_addMistake_score`).
-/

namespace MailSort

namespace Predictor

variable {headers mailbox : Text}

theorem score_of_cluster_model {predictor : ClusterPredictor Rat} {model : ClusterModel Rat}
    (known : predictor.boxes.get? mailbox = some model) (headers : Text) :
    ((cluster predictor).scores headers).get? mailbox =
      some (Score.clamp (model.confidence headers - predictor.mistakeScore mailbox headers)) := by
  rw [scores, ClusterPredictor.scores, SortedMap.get?_mapValues, known, Option.map_some]

variable [Compiler]

/-- A mistake leaves what is filed in the mailboxes as it is. -/
theorem boxes_of_addMistake {predictor next : ClusterPredictor Rat}
    (noted : predictor.addMistake headers mailbox = .ok next) : next.boxes = predictor.boxes := by
  cases known : predictor.mistakes.get? mailbox with
  | none =>
    rw [ClusterPredictor.addMistake_of_unknown known, Outcome.map_eq_ok_iff] at noted
    obtain ⟨model, -, rfl⟩ := noted
    rfl
  | some before =>
    rw [ClusterPredictor.addMistake_of_known known, Outcome.map_eq_ok_iff] at noted
    obtain ⟨mistakes, -, rfl⟩ := noted
    rfl

/-- The mistakes resemble the headers at least as much as before, or the headers dilute them. -/
theorem MadeOfArrivals.mistakeScore_le {predictor next : ClusterPredictor Rat}
    (made : (cluster predictor).MadeOfArrivals)
    (noted : predictor.addMistake headers mailbox = .ok next) :
    predictor.mistakeScore mailbox headers ≤ next.mistakeScore mailbox headers ∨
      ∃ before after, predictor.mistakes.get? mailbox = some before ∧
        next.mistakes.get? mailbox = some after ∧ ClusterModel.Dilutes headers before after := by
  rw [ClusterPredictor.mistakeScore, ClusterPredictor.mistakeScore]
  cases known : predictor.mistakes.get? mailbox with
  | none =>
    rw [ClusterPredictor.addMistake_of_unknown known, Outcome.map_eq_ok_iff] at noted
    obtain ⟨model, -, rfl⟩ := noted
    simp only [SortedMap.get?_insert, if_true]
    -- Without mistakes nothing counted against the mailbox.
    exact .inl (model.confidence_nonneg headers)
  | some before =>
    rw [ClusterPredictor.addMistake_of_known known, Registry.update_of_known known] at noted
    simp only [Outcome.map_eq_ok_iff] at noted
    obtain ⟨_, ⟨after, added, rfl⟩, rfl⟩ := noted
    obtain ⟨log, -, built⟩ := made.2 known
    simp only [SortedMap.get?_insert, if_true]
    obtain grows | dilutes :=
      (ClusterModel.build_eq_ok_iff.1 built).1.confidence_le_or_dilutes added
    · exact .inl grows
    · exact .inr ⟨before, after, rfl, rfl, dilutes⟩

/-- Whatever was asked before, recording headers as a mistake made with a registered mailbox does
    not raise their score with it, or the headers dilute the mistakes: they have two characters or
    more and no cluster of the mistakes to themselves, and every cluster of the mistakes that they
    resembled most is gone.  Either they went back to an earlier place, or they joined each of those
    clusters as its second sample or with a gap in which they do not go on uniformly. -/
theorem run_addMistake_score (settings : Settings Rat) (requests : List Request)
    {headers mailbox : Text} {next : Predictor Rat}
    (known : ((ofKind settings .cluster).run requests).knows mailbox)
    (noted : ((ofKind settings .cluster).run requests).addMistake? headers mailbox =
      some (.ok next)) :
    ∃ score score', (((ofKind settings .cluster).run requests).scores headers).get? mailbox =
        some score ∧
      (next.scores headers).get? mailbox = some score' ∧
      (score' ≤ score ∨ ∃ before after,
        ((ofKind settings .cluster).run requests).mistakeModel? mailbox = some before ∧
        next.mistakeModel? mailbox = some after ∧ ClusterModel.Dilutes headers before after) := by
  have made := (madeOfArrivals_ofKind settings .cluster).run requests
  revert known noted made
  generalize (ofKind settings .cluster).run requests = predictor
  intro known noted made
  cases predictor with
  | sliding predictor => contradiction
  | template predictor => contradiction
  | cluster predictor =>
    obtain ⟨model, held⟩ := Option.isSome_iff_exists.1 known
    obtain ⟨noting, done, rfl⟩ := Outcome.map_eq_ok_iff.1 (Option.some.inj noted)
    have held' : noting.boxes.get? mailbox = some model := by
      rw [boxes_of_addMistake done, held]
    refine ⟨_, _, score_of_cluster_model held headers, score_of_cluster_model held' headers, ?_⟩
    obtain resembles | dilutes := made.mistakeScore_le done
    · exact .inl (Score.clamp_mono (sub_le_sub_left resembles _))
    · exact .inr dilutes

end Predictor

namespace Predictor

def mistakeRaises (headers mailbox : Text) (predictor : Predictor Rat) : Bool :=
  match predictor.addMistake? headers mailbox, (predictor.scores headers).get? mailbox with
  | some (.ok next), some score => ((next.scores headers).get? mailbox).any (score < ·)
  | _, _ => false

theorem mistakeRaises_iff {headers mailbox : Text} {predictor : Predictor Rat} :
    predictor.mistakeRaises headers mailbox ↔ ∃ next score score',
      predictor.addMistake? headers mailbox = some (.ok next) ∧
      (predictor.scores headers).get? mailbox = some score ∧
      (next.scores headers).get? mailbox = some score' ∧ score < score' := by
  unfold mistakeRaises
  split
  · next next score noted scored => simp [noted, scored, Option.any_eq_true]
  · next others =>
    refine ⟨nofun, ?_⟩
    rintro ⟨next, score, score', noted, scored, -⟩
    exact absurd scored (others next score noted)

/-- The second sample of a cluster shares less with the first than the template makes of it. -/
theorem run_addMistake_score_of_second :
    ∃ (requests : List Request) (next : Predictor Rat) (score score' : Rat)
        (before after : ClusterModel Rat),
      requests = [.consider "Ids".toList ["Subject 2".toList],
        .mistake "Subject 1".toList "Ids".toList] ∧
      ((ofKind .standard .cluster).run requests).addMistake? "Subject 2".toList "Ids".toList =
        some (.ok next) ∧
      (((ofKind .standard .cluster).run requests).scores "Subject 2".toList).get? "Ids".toList =
        some score ∧
      (next.scores "Subject 2".toList).get? "Ids".toList = some score' ∧ score < score' ∧
      ((ofKind .standard .cluster).run requests).mistakeModel? "Ids".toList = some before ∧
      next.mistakeModel? "Ids".toList = some after ∧
      ClusterModel.Dilutes "Subject 2".toList before after := by
  obtain ⟨requests, listed⟩ : ∃ requests : List Request,
      requests = [.consider "Ids".toList ["Subject 2".toList],
        .mistake "Subject 1".toList "Ids".toList] :=
    ⟨_, rfl⟩
  have known : ((ofKind .standard .cluster : Predictor Rat).run requests).knows "Ids".toList := by
    rw [listed]
    decide +kernel
  have raises : ((ofKind .standard .cluster).run requests).mistakeRaises "Subject 2".toList
      "Ids".toList := by
    rw [listed]
    decide +kernel
  obtain ⟨next, score, score', noted, scored, scored', less⟩ := mistakeRaises_iff.1 raises
  obtain ⟨first, last, found, found', falls | ⟨before, after, held, held', dilutes⟩⟩ :=
    run_addMistake_score .standard requests known noted
  · obtain rfl : score = first := Option.some.inj (scored.symm.trans found)
    obtain rfl : score' = last := Option.some.inj (scored'.symm.trans found')
    exact absurd less falls.not_gt
  · exact ⟨requests, next, score, score', before, after, listed, noted, scored, scored', less, held,
      held', dilutes⟩

/-- Headers that join a mistake as its second sample, that join several with a gap in which a
    character is followed by different ones, and that go back to an earlier place. -/
theorem mistakeRaises_of_dilution :
    ((ofKind .standard .cluster).run [.consider "Ids".toList ["Subject 2".toList],
      .mistake "Subject 1".toList "Ids".toList]).mistakeRaises "Subject 2".toList "Ids".toList ∧
    ((ofKind .standard .cluster).run [.consider "Ids".toList ["Subject: abaab".toList],
      .mistake "Subject: ab".toList "Ids".toList, .mistake "Subject: cd".toList "Ids".toList,
      .mistake "Subject: ab".toList "Ids".toList]).mistakeRaises "Subject: abaab".toList
        "Ids".toList ∧
    ((ofKind .standard .cluster).run [.consider "Ids".toList ["other".toList],
      .mistake "Subject 2".toList "Ids".toList, .mistake "Subject 1".toList "Ids".toList,
      .add "Subject 2".toList "Ids".toList]).mistakeRaises "Subject 2".toList "Ids".toList := by
  decide +kernel

end Predictor

end MailSort
