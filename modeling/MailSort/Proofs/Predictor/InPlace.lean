import MailSort.Proofs.ClusterModel.InPlace
import MailSort.Proofs.Predictor.Requests

/-! # Predictors in place

The template predictor changes copies of the models of a mailbox, and swaps them in when all have
been changed.  The cluster predictor clears a mistake in a copy, changes the model of the mailbox
where it is, and puts the copy back last.  A request that fails has written nothing by then, so
that those after it go on as if it had not been made.
-/

namespace MailSort

open Procedure (attempt inPart)

def Registry.inBox {μ : Type} (mailbox : Text) (procedure : Procedure μ Unit) :
    Procedure (Registry μ) Unit := do
  let registry ← get
  let held ← attempt (registry.find mailbox)
  inPart held (registry.insert mailbox) procedure

theorem Registry.inBox_performs {μ : Type} {procedure : Procedure μ Unit}
    {change : μ → Except Fault μ} (performs : procedure.Performs change) (mailbox : Text) :
    (inBox mailbox procedure).Performs (Registry.update · mailbox change) := by
  intro registry
  simp only [inBox, Procedure.on_bind, Procedure.on_get, Procedure.on_attempt]
  cases known : registry.get? mailbox with
  | none =>
    rw [update_of_unknown known, find, known]
    rfl
  | some held =>
    rw [update_of_known known, find, known]
    exact performs.on_inPart (SortedMap.insert_eq_self known)

namespace SlidingPredictor

def carryOut (request : Predictor.Request) : Procedure SlidingPredictor Unit := do
  let predictor ← get
  match request with
  | .consider mailbox headers => set (predictor.consider mailbox headers)
  | .add headers mailbox =>
    inPart predictor.boxes (fun boxes => { predictor with boxes := boxes })
      (Registry.inBox mailbox (modify (· ++ [headers])))
  | .remove headers mailbox =>
    inPart predictor.boxes (fun boxes => { predictor with boxes := boxes })
      (Registry.inBox mailbox (modify (·.erase headers)))
  | .mistake _ _ => pure ()

def serve (predictor : SlidingPredictor) : Predictor.Request → Except Fault SlidingPredictor
  | .consider mailbox headers => .ok (predictor.consider mailbox headers)
  | .add headers mailbox => predictor.add headers mailbox
  | .remove headers mailbox => predictor.remove headers mailbox
  | .mistake _ _ => .ok predictor

theorem carryOut_performs (request : Predictor.Request) :
    (carryOut request).Performs (·.serve request) := by
  intro predictor
  cases request with
  | consider mailbox headers => rfl
  | add headers mailbox =>
    have appends : (modify (· ++ [headers]) : Procedure (List Text) Unit).Performs
        fun held => .ok (held ++ [headers]) := fun _ => rfl
    simp only [carryOut, serve, Procedure.on_bind, Procedure.on_get, add_eq]
    exact (Registry.inBox_performs appends mailbox).on_inPart rfl
  | remove headers mailbox =>
    have erases : (modify (·.erase headers) : Procedure (List Text) Unit).Performs
        fun held => .ok (held.erase headers) := fun _ => rfl
    simp only [carryOut, serve, Procedure.on_bind, Procedure.on_get, remove_eq]
    exact (Registry.inBox_performs erases mailbox).on_inPart rfl
  | mistake headers mailbox => rfl

end SlidingPredictor

section

variable [Compiler]

namespace TemplatePredictor

def updateModels (mailbox : Text) (update : Procedure TemplateModel Unit) :
    Procedure TemplatePredictor Unit := do
  let predictor ← get
  let models ← attempt (predictor.boxes.find mailbox)
  let updated ← attempt (models.mapM update.onCopy)
  modify fun predictor =>
    { predictor with boxes := predictor.boxes.insert mailbox updated }

def carryOut (request : Predictor.Request) : Procedure TemplatePredictor Unit := do
  let predictor ← get
  match request with
  | .consider mailbox headers =>
    let models ← attempt (predictor.settings.segmentLengths.mapM fun least =>
      TemplateModel.ofSamples headers least predictor.settings.budget)
    modify fun predictor => { predictor with boxes := predictor.boxes.insert mailbox models }
  | .add headers mailbox => updateModels mailbox (TemplateModel.addInPlace [headers])
  | .remove headers mailbox => updateModels mailbox (TemplateModel.removeInPlace [headers])
  | .mistake _ _ => pure ()

def serve (predictor : TemplatePredictor) : Predictor.Request → Except Fault TemplatePredictor
  | .consider mailbox headers => predictor.consider mailbox headers
  | .add headers mailbox => predictor.add headers mailbox
  | .remove headers mailbox => predictor.remove headers mailbox
  | .mistake _ _ => .ok predictor

omit [Compiler] in
theorem updateModels_performs {update : Procedure TemplateModel Unit}
    {change : TemplateModel → Except Fault TemplateModel} (performs : update.Performs change)
    (mailbox : Text) :
    (updateModels mailbox update).Performs fun predictor =>
      (predictor.boxes.update mailbox (List.mapM change)).map fun boxes =>
        { predictor with boxes := boxes } := by
  intro predictor
  have copies : update.onCopy = change := funext performs.onCopy_eq
  simp only [updateModels, Procedure.on_bind, Procedure.on_get, Procedure.on_attempt, copies]
  cases known : predictor.boxes.get? mailbox with
  | none =>
    rw [Registry.update_of_unknown known, Registry.find, known]
    rfl
  | some models =>
    rw [Registry.update_of_known known, Registry.find, known]
    cases changed : models.mapM change <;> simp [changed, Except.map]

theorem carryOut_performs (request : Predictor.Request) :
    (carryOut request).Performs (·.serve request) := by
  intro predictor
  cases request with
  | consider mailbox headers =>
    simp only [carryOut, serve, consider, Procedure.on_bind, Procedure.on_get,
      Procedure.on_attempt]
    cases predictor.settings.segmentLengths.mapM fun least =>
      TemplateModel.ofSamples headers least predictor.settings.budget <;> rfl
  | add headers mailbox =>
    simp only [carryOut, serve, Procedure.on_bind, Procedure.on_get, add_eq]
    exact updateModels_performs (TemplateModel.addInPlace_performs [headers]) mailbox predictor
  | remove headers mailbox =>
    simp only [carryOut, serve, Procedure.on_bind, Procedure.on_get, remove_eq]
    exact updateModels_performs (TemplateModel.removeInPlace_performs [headers]) mailbox predictor
  | mistake headers mailbox => rfl

end TemplatePredictor

variable {α : Type} [Score α]

namespace ClusterPredictor

def inModel (mailbox : Text) (procedure : Procedure (ClusterModel α) Unit) :
    Procedure (ClusterPredictor α) Unit := do
  let predictor ← get
  inPart predictor.boxes (fun boxes => { predictor with boxes := boxes })
    (Registry.inBox mailbox procedure)

def clearedCopy (predictor : ClusterPredictor α) (headers mailbox : Text) :
    Except Fault (Option (ClusterModel α)) :=
  match predictor.mistakes.get? mailbox with
  | some mistakes =>
    if mistakes.contains headers then
      ((ClusterModel.removeInPlace headers).onCopy mistakes).map some
    else .ok none
  | none => .ok none

def addInPlace (headers mailbox : Text) : Procedure (ClusterPredictor α) Unit := do
  let predictor ← get
  let _ ← attempt (predictor.boxes.find mailbox)
  let cleared ← attempt (predictor.clearedCopy headers mailbox)
  inModel mailbox (ClusterModel.addInPlace headers)
  match cleared with
  | some mistakes =>
    modify fun predictor =>
      { predictor with mistakes := predictor.mistakes.insert mailbox mistakes }
  | none => pure ()

def addMistakeInPlace (headers mailbox : Text) : Procedure (ClusterPredictor α) Unit := do
  let predictor ← get
  match predictor.mistakes.get? mailbox with
  | some _ =>
    inPart predictor.mistakes (fun mistakes => { predictor with mistakes := mistakes })
      (Registry.inBox mailbox (ClusterModel.addInPlace headers))
  | none =>
    let model ← attempt (ClusterModel.ofSamples predictor.limits [headers])
    modify fun predictor =>
      { predictor with mistakes := predictor.mistakes.insert mailbox model }

def carryOut (request : Predictor.Request) : Procedure (ClusterPredictor α) Unit := do
  let predictor ← get
  match request with
  | .consider mailbox headers =>
    let model ← attempt (ClusterModel.ofSamples predictor.limits headers)
    modify fun predictor => { predictor with boxes := predictor.boxes.insert mailbox model }
  | .add headers mailbox => addInPlace headers mailbox
  | .remove headers mailbox => inModel mailbox (ClusterModel.removeInPlace headers)
  | .mistake headers mailbox => addMistakeInPlace headers mailbox

def serve (predictor : ClusterPredictor α) : Predictor.Request → Except Fault (ClusterPredictor α)
  | .consider mailbox headers => predictor.consider mailbox headers
  | .add headers mailbox => predictor.add headers mailbox
  | .remove headers mailbox => predictor.remove headers mailbox
  | .mistake headers mailbox => predictor.addMistake headers mailbox

omit [Compiler] [Score α] in
theorem inModel_performs {procedure : Procedure (ClusterModel α) Unit}
    {change : ClusterModel α → Except Fault (ClusterModel α)}
    (performs : procedure.Performs change) (mailbox : Text) :
    (inModel mailbox procedure).Performs fun predictor =>
      (predictor.boxes.update mailbox change).map fun boxes =>
        { predictor with boxes := boxes } := by
  intro predictor
  simp only [inModel, Procedure.on_bind, Procedure.on_get]
  exact (Registry.inBox_performs performs mailbox).on_inPart rfl

theorem clearMistake_eq_map (predictor : ClusterPredictor α) (headers mailbox : Text) :
    predictor.clearMistake headers mailbox = (predictor.clearedCopy headers mailbox).map fun
      | some mistakes => predictor.mistakes.insert mailbox mistakes
      | none => predictor.mistakes := by
  rw [clearMistake, clearedCopy]
  cases predictor.mistakes.get? mailbox with
  | none => rfl
  | some mistakes =>
    simp only [(ClusterModel.removeInPlace_performs headers).onCopy_eq]
    split
    · cases mistakes.remove headers <;> rfl
    · rfl

theorem addInPlace_performs (headers mailbox : Text) :
    (addInPlace headers mailbox : Procedure (ClusterPredictor α) Unit).Performs
      (·.add headers mailbox) := by
  intro predictor
  have inBox : (inModel mailbox (ClusterModel.addInPlace headers)).on predictor =
      Procedure.settle ((predictor.boxes.update mailbox (·.add headers)).map fun boxes =>
        { predictor with boxes := boxes }) predictor :=
    inModel_performs (ClusterModel.addInPlace_performs headers) mailbox predictor
  simp only [addInPlace, Procedure.on_bind, Procedure.on_get, Procedure.on_attempt, add_eq,
    clearMistake_eq_map]
  cases predictor.boxes.find mailbox with
  | error fault => rfl
  | ok held =>
    cases predictor.clearedCopy headers mailbox with
    | error fault => rfl
    | ok cleared =>
      dsimp only
      rw [inBox]
      cases predictor.boxes.update mailbox (·.add headers) <;> cases cleared <;> rfl

theorem addMistakeInPlace_performs (headers mailbox : Text) :
    (addMistakeInPlace headers mailbox : Procedure (ClusterPredictor α) Unit).Performs
      (·.addMistake headers mailbox) := by
  intro predictor
  simp only [addMistakeInPlace, Procedure.on_bind, Procedure.on_get]
  cases known : predictor.mistakes.get? mailbox with
  | none =>
    rw [addMistake_of_unknown known]
    simp only [Procedure.on_bind, Procedure.on_attempt]
    cases ClusterModel.ofSamples predictor.limits [headers] <;> rfl
  | some held =>
    rw [addMistake_of_known known]
    exact (Registry.inBox_performs (ClusterModel.addInPlace_performs headers) mailbox).on_inPart rfl

theorem carryOut_performs (request : Predictor.Request) :
    (carryOut request : Procedure (ClusterPredictor α) Unit).Performs (·.serve request) := by
  intro predictor
  cases request with
  | consider mailbox headers =>
    simp only [carryOut, serve, consider, Procedure.on_bind, Procedure.on_get,
      Procedure.on_attempt]
    cases ClusterModel.ofSamples predictor.limits headers <;> rfl
  | add headers mailbox =>
    simp only [carryOut, serve, Procedure.on_bind, Procedure.on_get]
    exact addInPlace_performs headers mailbox predictor
  | remove headers mailbox =>
    simp only [carryOut, serve, Procedure.on_bind, Procedure.on_get, remove_eq]
    exact inModel_performs (ClusterModel.removeInPlace_performs headers) mailbox predictor
  | mistake headers mailbox =>
    simp only [carryOut, serve, Procedure.on_bind, Procedure.on_get]
    exact addMistakeInPlace_performs headers mailbox predictor

end ClusterPredictor

namespace Predictor

/-- Carries out a request where the models are. -/
def carryOut (request : Request) : Procedure (Predictor α) Unit := do
  match ← get with
  | .sliding predictor => inPart predictor .sliding (SlidingPredictor.carryOut request)
  | .template predictor => inPart predictor .template (TemplatePredictor.carryOut request)
  | .cluster predictor => inPart predictor .cluster (ClusterPredictor.carryOut request)

theorem carryOut_performs (request : Request) :
    (carryOut request : Procedure (Predictor α) Unit).Performs (·.serve request) := by
  intro predictor
  simp only [carryOut, Procedure.on_bind, Procedure.on_get]
  cases predictor with
  | sliding predictor =>
    refine ((SlidingPredictor.carryOut_performs request).on_inPart rfl).trans ?_
    cases request <;> rfl
  | template predictor =>
    refine ((TemplatePredictor.carryOut_performs request).on_inPart rfl).trans ?_
    cases request <;> rfl
  | cluster predictor =>
    refine ((ClusterPredictor.carryOut_performs request).on_inPart rfl).trans ?_
    cases request <;> rfl

/-! ## Sessions -/

def session (predictor : Predictor α) : List Request → List (Except Fault Unit) × Predictor α
  | [] => ([], predictor)
  | request :: later =>
    let (outcome, next) := (carryOut request).on predictor
    let (outcomes, last) := session next later
    (outcome :: outcomes, last)

theorem session_eq (predictor : Predictor α) (requests : List Request) :
    predictor.session requests =
      ((predictor.answers requests).map Prod.snd, predictor.run requests) := by
  induction requests generalizing predictor with
  | nil => rfl
  | cons request later ih =>
    have carried : (carryOut request).on predictor =
        (predictor.answer request, predictor.after request) :=
      carryOut_performs request predictor
    rw [session, carried]
    dsimp only
    rw [ih]
    rfl

/-- Requests that fail have changed nothing, so that the others go on without them; and neither has
    a failed update of a model.  Only samples that are added or removed as a list can fail half
    way, and then those before the failure have been taken in: what is left is the model that
    `ClusterModel.addAll` and `ClusterModel.removeAll` give beside the failure. -/
theorem failures_leave_no_trace (α : Type) [Score α] :
    (∀ (predictor : Predictor α) (requests : List Request), predictor.session requests =
        ((predictor.answers requests).map Prod.snd, predictor.run requests)) ∧
      (∀ request, (carryOut request : Procedure (Predictor α) Unit).LeavesNoTrace) ∧
      (∀ (predictor : Predictor α) request later fault,
        ((carryOut request).on predictor).1 = .error fault →
          predictor.session (request :: later) =
            (.error fault :: (predictor.session later).1, (predictor.session later).2)) ∧
      (∀ samples, (TemplateModel.addInPlace samples).LeavesNoTrace ∧
        (TemplateModel.removeInPlace samples).LeavesNoTrace) ∧
      (∀ sample, (ClusterModel.addInPlace sample : Procedure (ClusterModel α) Unit).LeavesNoTrace ∧
        (ClusterModel.removeInPlace sample : Procedure (ClusterModel α) Unit).LeavesNoTrace) ∧
      Procedure.StopsAtFailure
        (ClusterModel.addAllInPlace : List Text → Procedure (ClusterModel α) Unit)
        ClusterModel.addInPlace ∧
      Procedure.StopsAtFailure
        (ClusterModel.removeAllInPlace : List Text → Procedure (ClusterModel α) Unit)
        ClusterModel.removeInPlace ∧
      (∀ samples (model : ClusterModel α), (ClusterModel.addAllInPlace samples).on model =
        ((model.addAll samples).2.elim (.ok ()) .error, (model.addAll samples).1)) ∧
      (∀ samples (model : ClusterModel α), (ClusterModel.removeAllInPlace samples).on model =
        ((model.removeAll samples).2.elim (.ok ()) .error, (model.removeAll samples).1)) := by
  have noTrace (request : Request) :
      (carryOut request : Procedure (Predictor α) Unit).LeavesNoTrace :=
    (carryOut_performs request).leavesNoTrace
  have adds (sample : Text) :
      (ClusterModel.addInPlace sample : Procedure (ClusterModel α) Unit).LeavesNoTrace :=
    (ClusterModel.addInPlace_performs sample).leavesNoTrace
  have removes (sample : Text) :
      (ClusterModel.removeInPlace sample : Procedure (ClusterModel α) Unit).LeavesNoTrace :=
    (ClusterModel.removeInPlace_performs sample).leavesNoTrace
  refine ⟨session_eq, noTrace, ?_, fun samples => ?_, fun sample => ⟨adds sample, removes sample⟩,
    Procedure.stopsAtFailure_forM adds, Procedure.stopsAtFailure_forM removes,
    ClusterModel.on_addAllInPlace, ClusterModel.on_removeAllInPlace⟩
  · intro predictor request later fault failed
    have kept := noTrace request failed
    rw [session]
    simp only [failed, kept]
  · exact ⟨(TemplateModel.addInPlace_performs samples).leavesNoTrace,
      (TemplateModel.removeInPlace_performs samples).leavesNoTrace⟩

end Predictor

end

namespace Predictor

/-- The first bucket has taken the headers when the second cannot have their template, and the
    mistake has been cleared in a copy.  In a list, the samples before stay. -/
theorem failures_leave_no_trace_after_first_bucket :
    ∃ (predictor : Predictor Rat) (model : ClusterModel Rat) (before after : List Text)
        (sample : Text),
      predictor = (ofKind ⟨.cluster, ⟨[5], 100⟩, ⟨[8, 2], 1 / 2, 1 / 50, 1⟩, 100⟩ .cluster).run
        [.consider "Ids".toList ["id=1;ok".toList], .mistake "id=22;ok".toList "Ids".toList] ∧
      ((carryOut (.add "id=22;ok".toList "Ids".toList)).on predictor).1 =
        .error (.rebuildFailed ⟨1⟩) ∧
      ((carryOut (.add "id=22;ok".toList "Ids".toList)).on predictor).2 = predictor ∧
      (∀ later, predictor.session (.add "id=22;ok".toList "Ids".toList :: later) =
        (.error (.rebuildFailed ⟨1⟩) :: (predictor.session later).1,
          (predictor.session later).2)) ∧
      ((ClusterModel.addAllInPlace ["id=1;ok".toList, "hello".toList, "id=22;ok".toList]).on
        model).1 = .error (.rebuildFailed ⟨1⟩) ∧
      ["id=1;ok".toList, "hello".toList, "id=22;ok".toList] = before ++ sample :: after ∧
      (ClusterModel.addAllInPlace before).on model = (.ok (), ((ClusterModel.addAllInPlace
        ["id=1;ok".toList, "hello".toList, "id=22;ok".toList]).on model).2) := by
  have failed : ((carryOut (.add "id=22;ok".toList "Ids".toList)).on
      ((ofKind ⟨.cluster, ⟨[5], 100⟩, ⟨[8, 2], 1 / 2, 1 / 50, 1⟩, 100⟩ .cluster :
        Predictor Rat).run [.consider "Ids".toList ["id=1;ok".toList],
          .mistake "id=22;ok".toList "Ids".toList])).1 = .error (.rebuildFailed ⟨1⟩) := by
    decide +kernel
  have stopped : ((ClusterModel.addAllInPlace
      ["id=1;ok".toList, "hello".toList, "id=22;ok".toList] :
        Procedure (ClusterModel Rat) Unit).on ⟨⟨[8, 2], 1 / 2, 1 / 50, 1⟩,
          [⟨⟨8, by decide⟩, [⟨⟨8, by decide⟩, 1, .empty, [], .ofSamples [], 0⟩]⟩,
            ⟨⟨2, by decide⟩, [⟨⟨2, by decide⟩, 1, .empty, [], .ofSamples [], 0⟩]⟩],
          .ofSamples []⟩).1 = .error (.rebuildFailed ⟨1⟩) := by
    decide +kernel
  obtain ⟨_, noTrace, goesOn, _, _, adds, _⟩ := failures_leave_no_trace Rat
  obtain ⟨before, sample, after, listed, done, _⟩ := adds stopped
  exact ⟨_, _, before, after, sample, rfl, failed, noTrace _ failed,
    fun later => goesOn _ _ later _ failed, stopped, listed, done⟩

end Predictor

end MailSort
