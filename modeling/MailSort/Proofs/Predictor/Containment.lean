import MailSort.Proofs.Predictor.Requests
import MailSort.Proofs.Sliding.Overlap

/-! # Full confidence without a model

A mailbox without a model is fully trusted with headers just when it holds headers that contain
them or are contained in them (`Predictor.run_full_iff_contained`).  What it holds is what was added
and not removed, in some order or other (`Predictor.filedBy`), and the scores do not depend on the
order (`Histogram.confidence_of_perm`).
-/

namespace MailSort

/-! ## What requests leave in a mailbox -/

/-- What is held for a mailbox after an update that cannot fail once the mailbox is found. -/
theorem Registry.get?_of_update {μ : Type} (registry : Registry μ) (change : μ → μ)
    (other mailbox : Text) :
    ((registry.update other fun held => .ok (change held)).toOption.getD registry).get? mailbox =
      if other = mailbox then (registry.get? mailbox).map change else registry.get? mailbox := by
  cases known : registry.get? other with
  | none =>
    rw [Registry.update_of_unknown known]
    show registry.get? mailbox = _
    split
    · next same => rw [← same, known, Option.map_none]
    · rfl
  | some held =>
    rw [Registry.update_of_known known]
    show (registry.insert other (change held)).get? mailbox = _
    rw [SortedMap.get?_insert]
    split
    · next same => rw [← same, known, Option.map_some]
    · rfl

namespace Predictor

/-- The headers in a mailbox after a request, in whatever order; none if it is not registered. -/
def Request.leaves (mailbox : Text) (filed : Option (Multiset Text)) :
    Request → Option (Multiset Text)
  | .consider other headers => if other = mailbox then some headers else filed
  | .add headers other => if other = mailbox then filed.map (headers ::ₘ ·) else filed
  | .remove headers other => if other = mailbox then filed.map (·.erase headers) else filed
  | .mistake _ _ => filed

def filedBy (mailbox : Text) (requests : List Request) : Option (Multiset Text) :=
  requests.foldl (Request.leaves mailbox) none

/-- The headers in a mailbox that are held without a model, in whatever order. -/
def heldIn {α : Type} (mailbox : Text) : Predictor α → Option (Multiset Text)
  | .sliding predictor => (predictor.boxes.get? mailbox).map Multiset.ofList
  | .template _ | .cluster _ => none

section Requests

variable [Compiler] {α : Type} [Score α]

theorem exists_after_of_sliding (predictor : SlidingPredictor) (request : Request) :
    ∃ boxes, (sliding predictor : Predictor α).after request =
      .sliding { predictor with boxes := boxes } := by
  rw [after]
  cases served : (sliding predictor : Predictor α).serve request with
  | error fault => exact ⟨predictor.boxes, rfl⟩
  | ok next =>
    cases serves_of_serve served with
    | sliding => exact ⟨_, rfl⟩

theorem heldIn_after (predictor : SlidingPredictor) (request : Request) (mailbox : Text) :
    ((sliding predictor : Predictor α).after request).heldIn mailbox =
      request.leaves mailbox ((sliding predictor : Predictor α).heldIn mailbox) := by
  cases request with
  | consider other headers =>
    show ((predictor.boxes.insert other headers).get? mailbox).map Multiset.ofList = _
    rw [SortedMap.get?_insert, Request.leaves]
    split <;> rfl
  | add headers other =>
    have updated : (sliding predictor : Predictor α).after (.add headers other) =
        .sliding { predictor with boxes := (predictor.boxes.update other fun held =>
          .ok (held ++ [headers])).toOption.getD predictor.boxes } := by
      rw [after, serve, add, SlidingPredictor.add_eq]
      cases predictor.boxes.update other fun held => .ok (held ++ [headers]) <;> rfl
    have more (held : List Text) : Multiset.ofList (held ++ [headers]) = headers ::ₘ held :=
      Multiset.coe_eq_coe.2 (List.perm_append_singleton headers held)
    rw [updated, heldIn, Registry.get?_of_update, Request.leaves, heldIn]
    split
    · simp [Function.comp_def, more]
    · rfl
  | remove headers other =>
    have updated : (sliding predictor : Predictor α).after (.remove headers other) =
        .sliding { predictor with boxes := (predictor.boxes.update other fun held =>
          .ok (held.erase headers)).toOption.getD predictor.boxes } := by
      rw [after, serve, remove, SlidingPredictor.remove_eq]
      cases predictor.boxes.update other fun held => .ok (held.erase headers) <;> rfl
    have less (held : List Text) :
        Multiset.ofList (held.erase headers) = (Multiset.ofList held).erase headers := by
      rw [Multiset.coe_erase]
      congr!
    rw [updated, heldIn, Registry.get?_of_update, Request.leaves, heldIn]
    split
    · simp only [Option.map_map, Function.comp_def, less]
    · rfl
  | mistake headers other => rfl

/-- Whatever is asked, a predictor without a model stays one with as many bins, and holds what the
    requests leave. -/
theorem exists_run_of_sliding (predictor : SlidingPredictor) (requests : List Request) :
    ∃ boxes, (sliding predictor : Predictor α).run requests =
        .sliding { predictor with boxes := boxes } ∧
      ∀ mailbox, ((sliding predictor : Predictor α).run requests).heldIn mailbox =
        requests.foldl (Request.leaves mailbox)
          ((sliding predictor : Predictor α).heldIn mailbox) := by
  induction requests generalizing predictor with
  | nil => exact ⟨predictor.boxes, rfl, fun _ => rfl⟩
  | cons request later ih =>
    obtain ⟨boxes, served⟩ := exists_after_of_sliding (α := α) predictor request
    obtain ⟨boxes', ran, left⟩ := ih { predictor with boxes := boxes }
    have first : (sliding predictor : Predictor α).run (request :: later) =
        (sliding { predictor with boxes := boxes }).run later :=
      congrArg (run · later) served
    apply Exists.intro boxes'
    apply And.intro (first.trans ran)
    intro mailbox
    rw [first, left, ← served, heldIn_after, List.foldl_cons]

theorem heldIn_run_ofKind (settings : Settings α) (requests : List Request) (mailbox : Text) :
    ((ofKind settings .sliding).run requests).heldIn mailbox = filedBy mailbox requests := by
  obtain ⟨boxes, -, left⟩ := exists_run_of_sliding (α := α) (.empty settings.bins) requests
  exact left mailbox

/-- A mailbox is scored by the headers that it holds. -/
theorem get?_scores_of_heldIn [Score.Separated α] (settings : Settings α)
    (requests : List Request) {mailbox : Text} {held : List Text}
    (known : ((ofKind settings .sliding).run requests).heldIn mailbox = some ↑held)
    (headers : Text) :
    (((ofKind settings .sliding).run requests).scores headers).get? mailbox =
      some (Histogram.confidence (held.filterMap (SlidingPredictor.overlapScore? headers))
        settings.bins) := by
  obtain ⟨boxes, ran, -⟩ := exists_run_of_sliding (α := α) (.empty settings.bins) requests
  replace ran : (ofKind settings .sliding).run requests = _ := ran
  rw [ran] at known ⊢
  obtain ⟨listed, found, same⟩ := Option.map_eq_some_iff.1 known
  have reordered := (Multiset.coe_eq_coe.1 same).filterMap
    (SlidingPredictor.overlapScore? (α := α) headers)
  rw [scores, SlidingPredictor.scores, SortedMap.get?_mapValues, found, Option.map_some,
    Histogram.confidence_of_perm reordered]
  rfl

end Requests

variable [Compiler]

/-- Whatever was asked before, a mailbox holds the headers that the requests have left in it.  New
    headers are scored 1 with it if one of these contains them or is contained in them, and only
    then; headers without characters do not count.  A mailbox that holds the same headers gives the
    same score, whatever was asked to leave them there. -/
theorem run_full_iff_contained (settings : Settings Rat) (requests : List Request)
    (mailbox : Text) :
    ((ofKind settings .sliding).run requests).heldIn mailbox = filedBy mailbox requests ∧
      ∀ held, ((ofKind settings .sliding).run requests).heldIn mailbox = some held →
        ∀ headers, ∃ score : Rat,
          (((ofKind settings .sliding).run requests).scores headers).get? mailbox = some score ∧
          (score = 1 ↔ headers ≠ [] ∧ ∃ stored ∈ held, stored ≠ [] ∧
            (headers <:+: stored ∨ stored <:+: headers)) ∧
          ∀ others other, ((ofKind settings .sliding).run others).heldIn other = some held →
            (((ofKind settings .sliding).run others).scores headers).get? other = some score := by
  apply And.intro (heldIn_run_ofKind settings requests mailbox)
  intro held known headers
  obtain ⟨listed, rfl⟩ := Quot.exists_rep held
  exact ⟨_, get?_scores_of_heldIn settings requests known headers,
    SlidingPredictor.confidence_eq_one_iff listed headers settings.bins,
    fun others other same => get?_scores_of_heldIn settings others same headers⟩

/-- Two headers were added and one was removed again; in the other mailbox they are in another
    order, beside one without characters. -/
theorem run_full_iff_contained_after_removal :
    ∃ requests : List Request,
      requests = [.consider "Ids".toList ["id=1".toList, []], .add "id=22".toList "Ids".toList,
        .consider "Other".toList [[], "id=22".toList, "xyz".toList],
        .remove "id=1".toList "Ids".toList, .add "xyz".toList "Ids".toList] ∧
      (((ofKind .standard .sliding).run requests).scores "d=2".toList).get? "Ids".toList =
        some (1 : Rat) ∧
      (((ofKind .standard .sliding).run requests).scores "d=2".toList).get? "Other".toList =
        some (1 : Rat) ∧
      (((ofKind .standard .sliding).run requests).scores "id=1".toList).get? "Ids".toList ≠
        some (1 : Rat) := by
  obtain ⟨requests, listed⟩ : ∃ requests : List Request,
      requests = [.consider "Ids".toList ["id=1".toList, []], .add "id=22".toList "Ids".toList,
        .consider "Other".toList [[], "id=22".toList, "xyz".toList],
        .remove "id=1".toList "Ids".toList, .add "xyz".toList "Ids".toList] :=
    ⟨_, rfl⟩
  obtain ⟨left, left'⟩ : filedBy "Ids".toList requests =
        some (Multiset.ofList ["id=22".toList, [], "xyz".toList]) ∧
      filedBy "Other".toList requests =
        some (Multiset.ofList ["id=22".toList, [], "xyz".toList]) := by
    rw [listed]
    decide +kernel
  obtain ⟨held, full⟩ := run_full_iff_contained .standard requests "Ids".toList
  obtain ⟨held', -⟩ := run_full_iff_contained .standard requests "Other".toList
  rw [left] at held
  rw [left'] at held'
  obtain ⟨score, scored, contained, others⟩ := full _ held "d=2".toList
  obtain ⟨score', scored', contained', -⟩ := full _ held "id=1".toList
  obtain rfl := contained.2 ⟨by decide, "id=22".toList, by decide, by decide, by decide⟩
  have apart : ¬ ∃ stored ∈ ["id=22".toList, [], "xyz".toList], stored ≠ [] ∧
      ("id=1".toList <:+: stored ∨ stored <:+: "id=1".toList) := by
    decide
  refine ⟨requests, listed, scored, others _ _ held', ?_⟩
  rw [scored']
  exact fun same => apart (contained'.1 (Option.some.inj same)).2

end Predictor

end MailSort
