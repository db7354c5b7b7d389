import MailSort.Proofs.Fault
import MailSort.Proofs.Predictor.Requests

/-! # Isolation of mailboxes

Requests that are addressed to a mailbox depend on no others.  `Predictor.only` is what a
predictor has for a single mailbox, as a predictor of its own: requests to other mailboxes do not
change it (`only_after_of_ne`), and those to the mailbox act on it as they act on the whole
(`map_only_serve`).
-/

namespace MailSort

/-! ## Single keys -/

namespace SortedMap

variable {κ ν : Type} [Ord κ] [Std.TransOrd κ] [Std.LawfulEqOrd κ] {key other : κ}

def only (map : SortedMap κ ν) (key : κ) : SortedMap κ ν :=
  match map.get? key with
  | some value => empty.insert key value
  | none => empty

theorem get?_only [DecidableEq κ] (map : SortedMap κ ν) (key other : κ) :
    (map.only key).get? other = if key = other then map.get? key else none := by
  rw [only]
  cases map.get? key with
  | none => exact (ite_self none).symm
  | some value => exact get?_insert empty key other value

theorem get?_only_self (map : SortedMap κ ν) (key : κ) :
    (map.only key).get? key = map.get? key := by
  classical
  rw [get?_only, if_pos rfl]

theorem only_insert_self (map : SortedMap κ ν) (key : κ) (value : ν) :
    (map.insert key value).only key = (map.only key).insert key value := by
  classical
  refine ext_get? fun found => ?_
  simp only [get?_only, get?_insert]
  by_cases same : key = found <;> simp [same]

theorem only_insert_of_ne (different : other ≠ key) (map : SortedMap κ ν) (value : ν) :
    (map.insert other value).only key = map.only key := by
  classical
  refine ext_get? fun found => ?_
  simp only [get?_only, get?_insert, if_neg different]

end SortedMap

namespace Registry

variable {μ : Type} {registry next : Registry μ} {mailbox other : Text} {registers : Bool}
  {build : ArrivalLog → Except Fault μ}

theorem Revised.only_of_ne (revised : Revised build other registry registers next)
    (different : other ≠ mailbox) : next.only mailbox = registry.only mailbox := by
  cases revised with
  | same => rfl
  | insert built => exact SortedMap.only_insert_of_ne different registry _
  | update tracks keeps updated =>
    obtain ⟨held, changed, _, _, rfl⟩ := update_eq_ok_iff.1 updated
    exact SortedMap.only_insert_of_ne different registry changed

theorem Revised.isSome_get? (revised : Revised build other registry registers next)
    (mailbox : Text) :
    (next.get? mailbox).isSome ↔ (registry.get? mailbox).isSome ∨ registers ∧ other = mailbox := by
  cases revised with
  | same => simp
  | insert built =>
    rw [SortedMap.get?_insert]
    by_cases same : other = mailbox <;> simp [same]
  | update tracks keeps updated =>
    obtain ⟨held, changed, known, _, rfl⟩ := update_eq_ok_iff.1 updated
    rw [SortedMap.get?_insert]
    by_cases same : other = mailbox
    · subst same
      simp [known]
    · simp [same]

theorem update_eq_unknown_iff {change : μ → Except Fault μ} {name : Text}
    (never : ∀ held, change held ≠ .error (.unknownMailbox name)) :
    registry.update mailbox change = .error (.unknownMailbox name) ↔
      name = mailbox ∧ ¬ (registry.get? mailbox).isSome := by
  cases known : registry.get? mailbox with
  | none => simp [update_of_unknown known, eq_comm]
  | some held => simp [update_of_known known, Outcome.map_eq_error_iff, never held]

/-- An update of the mailbox finds there what it finds in the whole registry. -/
theorem map_only_update (registry : Registry μ) (mailbox : Text) (change : μ → Except Fault μ) :
    (registry.update mailbox change).map (SortedMap.only · mailbox) =
      Registry.update (registry.only mailbox) mailbox change := by
  have same := SortedMap.get?_only_self registry mailbox
  cases known : registry.get? mailbox with
  | none =>
    rw [known] at same
    rw [update_of_unknown known, update_of_unknown same]
    rfl
  | some held =>
    rw [known] at same
    rw [update_of_known known, update_of_known same]
    cases change held with
    | error fault => rfl
    | ok changed => exact congrArg Except.ok (SortedMap.only_insert_self registry mailbox changed)

theorem find_only (registry : Registry μ) (mailbox : Text) :
    Registry.find (registry.only mailbox) mailbox = registry.find mailbox := by
  rw [find, find, SortedMap.get?_only_self]

end Registry

/-! ## What a predictor has for a mailbox -/

section

variable {α : Type} {mailbox : Text}

def ClusterPredictor.only (mailbox : Text) (predictor : ClusterPredictor α) : ClusterPredictor α :=
  { predictor with
    boxes := predictor.boxes.only mailbox
    mistakes := predictor.mistakes.only mailbox }

namespace Predictor

def only (mailbox : Text) : Predictor α → Predictor α
  | .sliding predictor => .sliding { predictor with boxes := predictor.boxes.only mailbox }
  | .template predictor => .template { predictor with boxes := predictor.boxes.only mailbox }
  | .cluster predictor => .cluster (predictor.only mailbox)

theorem only_ofKind (settings : Settings α) (kind : PredictorKind) (mailbox : Text) :
    (ofKind settings kind).only mailbox = ofKind settings kind := by
  cases kind <;> rfl

theorem get?_scores_only [Score α] (predictor : Predictor α) (mailbox headers : Text) :
    ((predictor.only mailbox).scores headers).get? mailbox =
      (predictor.scores headers).get? mailbox := by
  cases predictor with
  | sliding predictor =>
    simp only [only, scores, SlidingPredictor.scores, SortedMap.get?_mapValues,
      SortedMap.get?_only_self]
  | template predictor =>
    simp only [only, scores, TemplatePredictor.scores, SortedMap.get?_mapValues,
      SortedMap.get?_only_self]
  | cluster predictor =>
    simp only [only, ClusterPredictor.only, scores, ClusterPredictor.scores,
      ClusterPredictor.mistakeScore, SortedMap.get?_mapValues, SortedMap.get?_only_self]

end Predictor

end

variable [Compiler] {α : Type} [Score α] {mailbox : Text}

/-! ## Requests to the mailbox -/

theorem ClusterPredictor.map_only_clearMistake (predictor : ClusterPredictor α)
    (headers mailbox : Text) :
    (predictor.clearMistake headers mailbox).map (SortedMap.only · mailbox) =
      (predictor.only mailbox).clearMistake headers mailbox := by
  have same : (predictor.only mailbox).mistakes.get? mailbox = predictor.mistakes.get? mailbox :=
    SortedMap.get?_only_self predictor.mistakes mailbox
  cases known : predictor.mistakes.get? mailbox with
  | none =>
    rw [known] at same
    rw [clearMistake_of_unknown known, clearMistake_of_unknown same]
    rfl
  | some held =>
    rw [known] at same
    rw [clearMistake_of_known known, clearMistake_of_known same]
    exact Registry.map_only_update predictor.mistakes mailbox _

theorem ClusterPredictor.clearMistake_ne_unknown (predictor : ClusterPredictor α)
    {headers name : Text} :
    predictor.clearMistake headers mailbox ≠ .error (.unknownMailbox name) := by
  cases known : predictor.mistakes.get? mailbox with
  | none => simp [clearMistake_of_unknown known]
  | some held =>
    simp [clearMistake_of_known known, Registry.update_of_known known, Outcome.map_eq_error_iff,
      held.remove_ne_unknown headers]

namespace Predictor

variable {predictor next : Predictor α} {request : Request}

/-- Requests to a mailbox act on what the predictor has for it as they act on the whole. -/
theorem map_only_serve (predictor : Predictor α) (request : Request) :
    (predictor.serve request).map (only request.mailbox) =
      (predictor.only request.mailbox).serve request := by
  cases predictor with
  | sliding predictor =>
    cases request with
    | consider mailbox headers =>
      simp only [serve, consider, only, Request.mailbox, SlidingPredictor.consider, Except.map,
        SortedMap.only_insert_self]
    | add headers mailbox =>
      simp only [serve, add, only, Request.mailbox, SlidingPredictor.add_eq,
        ← Registry.map_only_update]
      cases predictor.boxes.update mailbox _ <;> rfl
    | remove headers mailbox =>
      simp only [serve, remove, only, Request.mailbox, SlidingPredictor.remove_eq,
        ← Registry.map_only_update]
      cases predictor.boxes.update mailbox _ <;> rfl
    | mistake headers mailbox => rfl
  | template predictor =>
    cases request with
    | consider mailbox headers =>
      simp only [serve, consider, only, Request.mailbox, TemplatePredictor.consider_eq,
        ← SortedMap.only_insert_self]
      cases TemplatePredictor.modelsOf predictor.settings _ <;> rfl
    | add headers mailbox =>
      simp only [serve, add, only, Request.mailbox, TemplatePredictor.add_eq,
        ← Registry.map_only_update]
      cases predictor.boxes.update mailbox _ <;> rfl
    | remove headers mailbox =>
      simp only [serve, remove, only, Request.mailbox, TemplatePredictor.remove_eq,
        ← Registry.map_only_update]
      cases predictor.boxes.update mailbox _ <;> rfl
    | mistake headers mailbox => rfl
  | cluster predictor =>
    rw [only]
    cases request with
    | consider mailbox headers =>
      rw [serve, serve, consider, consider, ClusterPredictor.consider_eq,
        ClusterPredictor.consider_eq]
      simp only [ClusterPredictor.only, Request.mailbox, ← SortedMap.only_insert_self]
      cases ClusterModel.build predictor.limits _ <;> rfl
    | add headers mailbox =>
      rw [serve, serve, add, add, ClusterPredictor.add_eq, ClusterPredictor.add_eq, Request.mailbox,
        ← ClusterPredictor.map_only_clearMistake]
      simp only [ClusterPredictor.only, Registry.find_only, ← Registry.map_only_update]
      cases predictor.boxes.find mailbox with
      | error fault => rfl
      | ok held =>
        cases predictor.clearMistake headers mailbox with
        | error fault => rfl
        | ok mistakes => cases predictor.boxes.update mailbox _ <;> rfl
    | remove headers mailbox =>
      rw [serve, serve, remove, remove, ClusterPredictor.remove_eq, ClusterPredictor.remove_eq]
      simp only [ClusterPredictor.only, Request.mailbox, ← Registry.map_only_update]
      cases predictor.boxes.update mailbox _ <;> rfl
    | mistake headers mailbox =>
      have same : (predictor.only mailbox).mistakes.get? mailbox =
          predictor.mistakes.get? mailbox :=
        SortedMap.get?_only_self predictor.mistakes mailbox
      rw [serve, serve, addMistake?, addMistake?, Option.getD_some, Option.getD_some]
      cases known : predictor.mistakes.get? mailbox with
      | none =>
        rw [known] at same
        rw [Request.mailbox, ClusterPredictor.addMistake_of_unknown known,
          ClusterPredictor.addMistake_of_unknown same]
        simp only [ClusterPredictor.only, ← SortedMap.only_insert_self]
        cases ClusterModel.ofSamples predictor.limits _ <;> rfl
      | some held =>
        rw [known] at same
        rw [Request.mailbox, ClusterPredictor.addMistake_of_known known,
          ClusterPredictor.addMistake_of_known same]
        simp only [ClusterPredictor.only, ← Registry.map_only_update]
        cases predictor.mistakes.update mailbox _ <;> rfl

/-! ## Requests to other mailboxes -/

theorem only_after_of_ne (different : request.mailbox ≠ mailbox) :
    (predictor.after request).only mailbox = predictor.only mailbox := by
  rw [after]
  cases served : predictor.serve request with
  | error fault => rfl
  | ok next =>
    cases serves_of_serve served with
    | sliding revised => exact congrArg (sliding ⟨_, ·⟩) (revised.only_of_ne different)
    | template revised => exact congrArg (template ⟨_, ·⟩) (revised.only_of_ne different)
    | cluster revised mistaken =>
      exact congrArg₂ (cluster ⟨_, ·, ·⟩) (revised.only_of_ne different)
        (mistaken.only_of_ne different)

/-! ## Interleavings -/

theorem only_after_self (predictor : Predictor α) (request : Request) :
    (predictor.after request).only request.mailbox =
      (predictor.only request.mailbox).after request := by
  rw [after, after, ← map_only_serve]
  cases predictor.serve request <;> rfl

theorem answer_only (predictor : Predictor α) (request : Request) :
    (predictor.only request.mailbox).answer request = predictor.answer request := by
  rw [answer, answer, ← map_only_serve]
  cases predictor.serve request <;> rfl

theorem only_run (predictor : Predictor α) (requests : List Request) (mailbox : Text) :
    (predictor.run requests).only mailbox =
      (predictor.only mailbox).run (requests.filter (·.mailbox = mailbox)) := by
  induction requests generalizing predictor with
  | nil => rfl
  | cons request later ih =>
    have step := ih (predictor.after request)
    by_cases own : request.mailbox = mailbox
    · subst own
      rw [only_after_self] at step
      rw [List.filter_cons_of_pos (by simp)]
      exact step
    · rw [only_after_of_ne own] at step
      rw [List.filter_cons_of_neg (by simpa using own)]
      exact step

theorem answers_filter (predictor : Predictor α) (requests : List Request) (mailbox : Text) :
    (predictor.answers requests).filter (·.1.mailbox = mailbox) =
      (predictor.only mailbox).answers (requests.filter (·.mailbox = mailbox)) := by
  induction requests generalizing predictor with
  | nil => rfl
  | cons request later ih =>
    have step := ih (predictor.after request)
    by_cases own : request.mailbox = mailbox
    · subst own
      rw [only_after_self] at step
      rw [answers, List.filter_cons_of_pos (by simp), step, List.filter_cons_of_pos (by simp),
        answers, answer_only]
    · rw [only_after_of_ne own] at step
      rw [answers, List.filter_cons_of_neg (by simpa using own), step,
        List.filter_cons_of_neg (by simpa using own)]

/-! ## Registered mailboxes -/

def knows (mailbox : Text) : Predictor α → Bool
  | .sliding predictor => (predictor.boxes.get? mailbox).isSome
  | .template predictor => (predictor.boxes.get? mailbox).isSome
  | .cluster predictor => (predictor.boxes.get? mailbox).isSome

theorem knows_serve (served : predictor.serve request = .ok next) (mailbox : Text) :
    next.knows mailbox ↔
      predictor.knows mailbox ∨ request.registers ∧ request.mailbox = mailbox := by
  cases serves_of_serve served with
  | sliding revised => exact revised.isSome_get? mailbox
  | template revised => exact revised.isSome_get? mailbox
  | cluster revised mistaken => exact revised.isSome_get? mailbox

omit [Compiler] in
theorem Request.registers_iff :
    request.registers ∧ request.mailbox = mailbox ↔
      ∃ headers, .consider mailbox headers = request := by
  cases request <;> simp [Request.registers, Request.mailbox, eq_comm]

theorem knows_after (predictor : Predictor α) (request : Request) (mailbox : Text) :
    (predictor.after request).knows mailbox ↔ predictor.knows mailbox ∨
      ∃ headers, (.consider mailbox headers, .ok ()) = (request, predictor.answer request) := by
  cases served : predictor.serve request with
  | error fault => simp [after, answer, served, Except.map, Except.toOption]
  | ok next =>
    have known := knows_serve served mailbox
    rw [Request.registers_iff] at known
    simpa [after, answer, served, Except.map, Except.toOption] using known

theorem knows_run (predictor : Predictor α) (requests : List Request) (mailbox : Text) :
    (predictor.run requests).knows mailbox ↔ predictor.knows mailbox ∨
      ∃ headers, (Request.consider mailbox headers, .ok ()) ∈ predictor.answers requests := by
  induction requests generalizing predictor with
  | nil => simp [run, answers]
  | cons request later ih =>
    have step := ih (predictor.after request)
    rw [knows_after, or_assoc, ← exists_or] at step
    simp only [answers, List.mem_cons]
    exact step

theorem answer_add_eq_unknown_iff {headers name : Text} :
    predictor.answer (.add headers mailbox) = .error (.unknownMailbox name) ↔
      name = mailbox ∧ ¬ predictor.knows mailbox := by
  rw [answer, Outcome.map_eq_error_iff]
  cases predictor with
  | sliding predictor =>
    rw [serve, add, SlidingPredictor.add_eq]
    simp only [Outcome.map_eq_error_iff]
    exact Registry.update_eq_unknown_iff fun _ => nofun
  | template predictor =>
    rw [serve, add, TemplatePredictor.add_eq]
    simp only [Outcome.map_eq_error_iff]
    exact Registry.update_eq_unknown_iff
      (Outcome.mapM_ne_error fun model => model.add_ne_unknown [headers])
  | cluster predictor =>
    rw [serve, add, Outcome.map_eq_error_iff, ClusterPredictor.add_eq]
    cases known : predictor.boxes.get? mailbox with
    | none => simp [Registry.find, known, knows, bind, Except.bind, eq_comm]
    | some held =>
      have registered : (cluster predictor).knows mailbox := by simp [knows, known]
      simp only [registered, not_true_eq_false, and_false, iff_false]
      refine Outcome.bind_ne_error (by simp [Registry.find, known]) fun _ => ?_
      refine Outcome.bind_ne_error predictor.clearMistake_ne_unknown fun mistakes => ?_
      simp [Outcome.map_eq_error_iff, Registry.update_of_known known, held.add_ne_unknown headers]

theorem answer_remove_eq_unknown_iff {headers name : Text} :
    predictor.answer (.remove headers mailbox) = .error (.unknownMailbox name) ↔
      name = mailbox ∧ ¬ predictor.knows mailbox := by
  rw [answer, Outcome.map_eq_error_iff]
  cases predictor with
  | sliding predictor =>
    rw [serve, remove, SlidingPredictor.remove_eq]
    simp only [Outcome.map_eq_error_iff]
    exact Registry.update_eq_unknown_iff fun _ => nofun
  | template predictor =>
    rw [serve, remove, TemplatePredictor.remove_eq]
    simp only [Outcome.map_eq_error_iff]
    exact Registry.update_eq_unknown_iff
      (Outcome.mapM_ne_error fun model => model.remove_ne_unknown [headers])
  | cluster predictor =>
    rw [serve, remove, ClusterPredictor.remove_eq]
    simp only [Outcome.map_eq_error_iff]
    exact Registry.update_eq_unknown_iff fun model => model.remove_ne_unknown headers

/-- Requests to other mailboxes make no difference to a mailbox, neither to the answers nor to the
    scores; and of the requests to the mailbox, only those that registered it decide whether it is
    known. -/
theorem run_isolated (settings : Settings α) (kind : PredictorKind) (requests : List Request)
    (mailbox : Text) :
    ((ofKind settings kind).answers requests).filter (·.1.mailbox = mailbox) =
        (ofKind settings kind).answers (requests.filter (·.mailbox = mailbox)) ∧
      (∀ headers, (((ofKind settings kind).run requests).scores headers).get? mailbox =
        (((ofKind settings kind).run (requests.filter (·.mailbox = mailbox))).scores headers).get?
          mailbox) ∧
      (∀ headers name, ((ofKind settings kind).run requests).answer (.add headers mailbox) =
          .error (.unknownMailbox name) ↔
        name = mailbox ∧ ¬ ∃ held,
          (Request.consider mailbox held, .ok ()) ∈ (ofKind settings kind).answers requests) ∧
      ∀ headers name, ((ofKind settings kind).run requests).answer (.remove headers mailbox) =
          .error (.unknownMailbox name) ↔
        name = mailbox ∧ ¬ ∃ held,
          (Request.consider mailbox held, .ok ()) ∈ (ofKind settings kind).answers requests := by
  have known := knows_run (ofKind settings kind) requests mailbox
  have unknown : ¬ (ofKind settings kind).knows mailbox := by
    cases kind <;> exact Bool.false_ne_true
  rw [or_iff_right unknown] at known
  have answers := answers_filter (ofKind settings kind) requests mailbox
  rw [only_ofKind] at answers
  have left := only_run (ofKind settings kind) requests mailbox
  rw [only_ofKind] at left
  refine ⟨answers, fun headers => ?_, fun headers name => ?_, fun headers name => ?_⟩
  · rw [← get?_scores_only, left]
  · rw [answer_add_eq_unknown_iff, known]
  · rw [answer_remove_eq_unknown_iff, known]

end Predictor

end MailSort
