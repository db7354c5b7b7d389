import MailSort.Predictor
import MailSort.Proofs.ClusterModel.Reclustering
import MailSort.Proofs.Predictor.Registry
import MailSort.Proofs.TemplateModel.Rebuild

/-! # Requests to predictors

A predictor is asked to register mailboxes, to add and to remove headers, and to note mistakes.
Whatever the requests were and whichever of them failed, what the predictor holds for a mailbox
was made from arrivals (`Predictor.MadeOfArrivals`): all models of a mailbox from the same, and
the mistakes from arrivals of their own.
-/

namespace MailSort

def TemplatePredictor.modelsOf [Compiler] (settings : TemplateSettings) (log : ArrivalLog) :
    Except Fault (List TemplateModel) :=
  settings.segmentLengths.mapM fun least => do
    TemplateModel.build log (← SegmentLength.ofNat? least) settings.budget

def SlidingPredictor.heldOf (log : ArrivalLog) : Except Fault (List Text) :=
  .ok log.samples

namespace Predictor

inductive Request where
  | consider (mailbox : Text) (headers : List Text)
  | add (headers mailbox : Text)
  | remove (headers mailbox : Text)
  | mistake (headers mailbox : Text)
  deriving DecidableEq

def Request.mailbox : Request → Text
  | .consider mailbox _ | .add _ mailbox | .remove _ mailbox | .mistake _ mailbox => mailbox

variable [Compiler] {α : Type} [Score α]

/-- The predictor that a request leads to.  A predictor that takes no note of mistakes passes
    over them. -/
def serve (predictor : Predictor α) : Request → Except Fault (Predictor α)
  | .consider mailbox headers => predictor.consider mailbox headers
  | .add headers mailbox => predictor.add headers mailbox
  | .remove headers mailbox => predictor.remove headers mailbox
  | .mistake headers mailbox => (predictor.addMistake? headers mailbox).getD (.ok predictor)

def answer (predictor : Predictor α) (request : Request) : Except Fault Unit :=
  (predictor.serve request).map fun _ => ()

/-- The predictor after a request.  If the request fails, it is the same as before. -/
def after (predictor : Predictor α) (request : Request) : Predictor α :=
  (predictor.serve request).toOption.getD predictor

def run (predictor : Predictor α) (requests : List Request) : Predictor α :=
  requests.foldl after predictor

/-- Whether headers were put into a mailbox by mistake, as far as the predictor takes note of it. -/
def mistaken (headers mailbox : Text) : Predictor α → Bool
  | .sliding _ | .template _ => false
  | .cluster predictor => (predictor.mistakes.get? mailbox).any (·.contains headers)

def answers (predictor : Predictor α) : List Request → List (Request × Except Fault Unit)
  | [] => []
  | request :: later => (request, predictor.answer request) :: (predictor.after request).answers later

end Predictor

/-! ## Steps of the arrivals -/

namespace SlidingPredictor

theorem tracks_add (headers : Text) :
    Registry.Tracks heldOf (fun held => .ok (held ++ [headers]))
      fun log => .ofSamples (log.samples ++ [headers]) := by
  intro log held built
  cases built
  rfl

theorem tracks_remove (headers : Text) :
    Registry.Tracks heldOf (fun held => .ok (held.erase headers))
      fun log => .ofSamples (log.samples.erase headers) := by
  intro log held built
  cases built
  rfl

theorem add_eq (predictor : SlidingPredictor) (headers mailbox : Text) :
    predictor.add headers mailbox =
      (predictor.boxes.update mailbox fun held => .ok (held ++ [headers])).map fun boxes =>
        { predictor with boxes := boxes } := by
  rw [add, Outcome.map_eq_bind]

theorem remove_eq (predictor : SlidingPredictor) (headers mailbox : Text) :
    predictor.remove headers mailbox =
      (predictor.boxes.update mailbox fun held => .ok (held.erase headers)).map fun boxes =>
        { predictor with boxes := boxes } := by
  rw [remove, Outcome.map_eq_bind]

end SlidingPredictor

section Tracking

variable [Compiler] {headers mailbox : Text}

namespace TemplatePredictor

variable {settings : TemplateSettings}

theorem modelsOf_ofSamples (settings : TemplateSettings) (samples : List Text) :
    modelsOf settings (.ofSamples samples) = settings.segmentLengths.mapM fun least =>
      TemplateModel.ofSamples samples least settings.budget :=
  rfl

/-- There is a model for each segment length, and all are of the same arrivals. -/
theorem forall_of_modelsOf {log : ArrivalLog} {models : List TemplateModel}
    (built : modelsOf settings log = .ok models) :
    models.map (·.segmentLength.chars) = settings.segmentLengths ∧
      ∀ model ∈ models, model.arrivals = log := by
  have reads (least : Nat) (model : TemplateModel)
      (made : (do TemplateModel.build log (← SegmentLength.ofNat? least) settings.budget) =
        .ok model) : model.segmentLength.chars = least ∧ model.arrivals = log := by
    obtain ⟨length, checked, made⟩ := Outcome.bind_eq_ok_iff.1 made
    obtain ⟨current, rfl⟩ := TemplateModel.build_eq_ok_iff.1 made
    rw [SegmentLength.ofNat?] at checked
    split at checked
    · cases checked
      exact ⟨congrArg SegmentLength.chars current.segmentLength_eq, rfl⟩
    · contradiction
  constructor
  · exact Outcome.map_eq_of_mapM (fun least model made => (reads least model made).1) built
  · intro model member
    obtain ⟨least, _, made⟩ := Outcome.exists_of_mem_mapM built member
    exact (reads least model made).2

/-- Models of the same samples differ only in the withdrawals that they can undo. -/
theorem modelsOf_of_samples_eq {log other : ArrivalLog} {models : List TemplateModel}
    (built : modelsOf settings log = .ok models) (same : other.samples = log.samples) :
    modelsOf settings other = .ok (models.map fun model => { model with arrivals := other }) := by
  refine Outcome.mapM_eq_map_of_mapM (fun least model made => ?_) built
  obtain ⟨length, checked, made⟩ := Outcome.bind_eq_ok_iff.1 made
  rw [checked]
  exact TemplateModel.build_of_samples_eq made same

/-- Updates of the models that track a step of their arrivals track it together. -/
theorem tracks_mapM {change : TemplateModel → Except Fault TemplateModel}
    {step : ArrivalLog → ArrivalLog}
    (tracks : ∀ {log : ArrivalLog} {least : SegmentLength} {budget : Nat} {model : TemplateModel},
      TemplateModel.build log least budget = .ok model →
        change model = TemplateModel.build (step log) least budget) :
    Registry.Tracks (modelsOf settings) (List.mapM change) step := by
  intro log models built
  refine Outcome.mapM_eq_of_mapM (fun least model made => ?_) built
  rw [Outcome.bind_eq_ok_iff] at made
  obtain ⟨length, checked, made⟩ := made
  rw [tracks made, checked]
  rfl

theorem tracks_add (headers : Text) :
    Registry.Tracks (modelsOf settings) (List.mapM fun model => model.add [headers])
      (·.accept headers) :=
  tracks_mapM fun built => TemplateModel.add_eq_build built [headers]

theorem tracks_remove (headers : Text) :
    Registry.Tracks (modelsOf settings) (List.mapM fun model => model.remove [headers])
      (·.withdrawAll [headers]) :=
  tracks_mapM fun built => TemplateModel.remove_eq_build built [headers]

theorem consider_eq (predictor : TemplatePredictor) (mailbox : Text) (headers : List Text) :
    predictor.consider mailbox headers =
      (modelsOf predictor.settings (.ofSamples headers)).map fun models =>
        { predictor with boxes := predictor.boxes.insert mailbox models } := by
  rw [consider, modelsOf_ofSamples, Outcome.map_eq_bind]

theorem add_eq (predictor : TemplatePredictor) (headers mailbox : Text) :
    predictor.add headers mailbox =
      (predictor.boxes.update mailbox (List.mapM fun model => model.add [headers])).map
        fun boxes => { predictor with boxes := boxes } := by
  rw [add, Outcome.map_eq_bind]

theorem remove_eq (predictor : TemplatePredictor) (headers mailbox : Text) :
    predictor.remove headers mailbox =
      (predictor.boxes.update mailbox (List.mapM fun model => model.remove [headers])).map
        fun boxes => { predictor with boxes := boxes } := by
  rw [remove, Outcome.map_eq_bind]

end TemplatePredictor

namespace ClusterPredictor

variable {α : Type} [Score α] {limits : ClusterLimits α} {predictor : ClusterPredictor α}

theorem tracks_add (headers : Text) :
    Registry.Tracks (ClusterModel.build limits) (·.add headers) (·.accept headers) :=
  fun _ _ built => ClusterModel.add_eq_build built headers

theorem tracks_remove (headers : Text) :
    Registry.Tracks (ClusterModel.build limits) (·.remove headers) (·.withdrawAll [headers]) :=
  fun _ _ built => ClusterModel.remove_eq_build built headers

theorem consider_eq (predictor : ClusterPredictor α) (mailbox : Text) (headers : List Text) :
    predictor.consider mailbox headers =
      (ClusterModel.build predictor.limits (.ofSamples headers)).map fun model =>
        { predictor with boxes := predictor.boxes.insert mailbox model } := by
  rw [consider, ClusterModel.ofSamples, Outcome.map_eq_bind]

theorem add_eq (predictor : ClusterPredictor α) (headers mailbox : Text) :
    predictor.add headers mailbox =
      predictor.boxes.find mailbox >>= fun _ =>
        predictor.clearMistake headers mailbox >>= fun mistakes =>
          (predictor.boxes.update mailbox (·.add headers)).map fun boxes =>
            { predictor with boxes := boxes, mistakes := mistakes } := by
  simp only [add, Outcome.map_eq_bind]

theorem remove_eq (predictor : ClusterPredictor α) (headers mailbox : Text) :
    predictor.remove headers mailbox =
      (predictor.boxes.update mailbox (·.remove headers)).map fun boxes =>
        { predictor with boxes := boxes } := by
  rw [remove, Outcome.map_eq_bind]

theorem clearMistake_of_unknown (unknown : predictor.mistakes.get? mailbox = none) :
    predictor.clearMistake headers mailbox = .ok predictor.mistakes := by
  rw [clearMistake, unknown]

theorem clearMistake_of_known {held : ClusterModel α}
    (known : predictor.mistakes.get? mailbox = some held) :
    predictor.clearMistake headers mailbox =
      predictor.mistakes.update mailbox (·.remove headers) := by
  rw [clearMistake, known, Registry.update_of_known known]
  by_cases present : held.contains headers
  · simp only [if_pos present]
    cases held.remove headers <;> rfl
  · -- Nothing is removed, and what is held is put back.
    have absent : headers ∉ held.arrivals.samples := fun member =>
      present (ArrivalLog.contains_iff.2 member)
    simp only [if_neg present, ClusterModel.remove, ArrivalLog.withdraw?_eq_none absent]
    exact congrArg Except.ok (SortedMap.insert_eq_self known).symm

theorem add_of_unmistaken (unmistaken : ¬ (Predictor.cluster predictor).mistaken headers mailbox) :
    predictor.add headers mailbox = (predictor.boxes.update mailbox (·.add headers)).map fun boxes =>
      { predictor with boxes := boxes } := by
  have kept : predictor.clearMistake headers mailbox = .ok predictor.mistakes := by
    rw [clearMistake]
    cases known : predictor.mistakes.get? mailbox with
    | none => rfl
    | some held =>
      rw [Predictor.mistaken, known] at unmistaken
      exact if_neg unmistaken
  rw [add_eq, kept]
  cases known : predictor.boxes.get? mailbox with
  | none =>
    rw [Registry.update_of_unknown known, Registry.find, known]
    rfl
  | some held =>
    rw [Registry.find, known]
    rfl

theorem addMistake_of_unknown (unknown : predictor.mistakes.get? mailbox = none) :
    predictor.addMistake headers mailbox =
      (ClusterModel.ofSamples predictor.limits [headers]).map fun model =>
        { predictor with mistakes := predictor.mistakes.insert mailbox model } := by
  rw [addMistake, unknown]
  cases ClusterModel.ofSamples predictor.limits [headers] <;> rfl

theorem addMistake_of_known {held : ClusterModel α}
    (known : predictor.mistakes.get? mailbox = some held) :
    predictor.addMistake headers mailbox =
      (predictor.mistakes.update mailbox (·.add headers)).map fun mistakes =>
        { predictor with mistakes := mistakes } := by
  rw [addMistake, known, Registry.update_of_known known]
  show (held.add headers >>= fun model => _) = _
  cases held.add headers <;> rfl

end ClusterPredictor

end Tracking

/-! ## Whatever is asked -/

namespace Predictor

variable [Compiler] {α : Type} [Score α] {predictor next : Predictor α} {request : Request}

def Request.registers : Request → Bool
  | .consider _ _ => true
  | .add _ _ | .remove _ _ | .mistake _ _ => false

inductive Serves (request : Request) : Predictor α → Predictor α → Prop where
  | sliding {predictor : SlidingPredictor} {boxes : Registry (List Text)}
    (revised : Registry.Revised SlidingPredictor.heldOf request.mailbox predictor.boxes
      request.registers boxes) :
    Serves request (.sliding predictor) (.sliding { predictor with boxes := boxes })
  | template {predictor : TemplatePredictor} {boxes : Registry (List TemplateModel)}
    (revised : Registry.Revised (TemplatePredictor.modelsOf predictor.settings) request.mailbox
      predictor.boxes request.registers boxes) :
    Serves request (.template predictor) (.template { predictor with boxes := boxes })
  | cluster {predictor : ClusterPredictor α} {boxes mistakes : Registry (ClusterModel α)}
    {noted : Bool}
    (revised : Registry.Revised (ClusterModel.build predictor.limits) request.mailbox
      predictor.boxes request.registers boxes)
    (mistaken : Registry.Revised (ClusterModel.build predictor.limits) request.mailbox
      predictor.mistakes noted mistakes) :
    Serves request (.cluster predictor)
      (.cluster { predictor with boxes := boxes, mistakes := mistakes })

theorem serves_sliding {predictor : SlidingPredictor}
    (served : (sliding predictor : Predictor α).serve request = .ok next) :
    Serves request (.sliding predictor) next := by
  cases request with
  | consider mailbox headers =>
    cases served
    have built : SlidingPredictor.heldOf (.ofSamples headers) = .ok headers := rfl
    exact .sliding (.insert built)
  | add headers mailbox =>
    obtain ⟨_, done, rfl⟩ := Outcome.map_eq_ok_iff.1 served
    rw [SlidingPredictor.add_eq, Outcome.map_eq_ok_iff] at done
    obtain ⟨boxes, updated, rfl⟩ := done
    exact .sliding (.update (SlidingPredictor.tracks_add headers) (fun _ => .settled _) updated)
  | remove headers mailbox =>
    obtain ⟨_, done, rfl⟩ := Outcome.map_eq_ok_iff.1 served
    rw [SlidingPredictor.remove_eq, Outcome.map_eq_ok_iff] at done
    obtain ⟨boxes, updated, rfl⟩ := done
    exact .sliding (.update (SlidingPredictor.tracks_remove headers) (fun _ => .settled _) updated)
  | mistake headers mailbox =>
    cases served
    exact .sliding .same

theorem serves_template {predictor : TemplatePredictor}
    (served : (template predictor : Predictor α).serve request = .ok next) :
    Serves request (.template predictor) next := by
  cases request with
  | consider mailbox headers =>
    obtain ⟨_, done, rfl⟩ := Outcome.map_eq_ok_iff.1 served
    rw [TemplatePredictor.consider_eq, Outcome.map_eq_ok_iff] at done
    obtain ⟨models, built, rfl⟩ := done
    exact .template (.insert built)
  | add headers mailbox =>
    obtain ⟨_, done, rfl⟩ := Outcome.map_eq_ok_iff.1 served
    rw [TemplatePredictor.add_eq, Outcome.map_eq_ok_iff] at done
    obtain ⟨boxes, updated, rfl⟩ := done
    exact .template (.update (TemplatePredictor.tracks_add headers)
      (fun restorable => restorable.accept headers) updated)
  | remove headers mailbox =>
    obtain ⟨_, done, rfl⟩ := Outcome.map_eq_ok_iff.1 served
    rw [TemplatePredictor.remove_eq, Outcome.map_eq_ok_iff] at done
    obtain ⟨boxes, updated, rfl⟩ := done
    exact .template (.update (TemplatePredictor.tracks_remove headers)
      (fun restorable => restorable.withdrawAll [headers]) updated)
  | mistake headers mailbox =>
    cases served
    exact .template .same

theorem revised_clearMistake {predictor : ClusterPredictor α} {headers mailbox : Text}
    {mistakes : Registry (ClusterModel α)}
    (cleared : predictor.clearMistake headers mailbox = .ok mistakes) :
    Registry.Revised (ClusterModel.build predictor.limits) mailbox predictor.mistakes false
      mistakes := by
  cases known : predictor.mistakes.get? mailbox with
  | none =>
    rw [ClusterPredictor.clearMistake_of_unknown known] at cleared
    cases cleared
    exact .same
  | some held =>
    rw [ClusterPredictor.clearMistake_of_known known] at cleared
    exact .update (ClusterPredictor.tracks_remove headers)
      (fun restorable => restorable.withdrawAll [headers]) cleared

theorem serves_cluster {predictor : ClusterPredictor α}
    (served : (cluster predictor).serve request = .ok next) :
    Serves request (.cluster predictor) next := by
  cases request with
  | consider mailbox headers =>
    obtain ⟨_, done, rfl⟩ := Outcome.map_eq_ok_iff.1 served
    rw [ClusterPredictor.consider_eq, Outcome.map_eq_ok_iff] at done
    obtain ⟨model, built, rfl⟩ := done
    exact .cluster (.insert built) .same
  | add headers mailbox =>
    obtain ⟨_, done, rfl⟩ := Outcome.map_eq_ok_iff.1 served
    rw [ClusterPredictor.add_eq] at done
    simp only [Outcome.bind_eq_ok_iff, Outcome.map_eq_ok_iff] at done
    obtain ⟨_, _, mistakes, cleared, boxes, updated, rfl⟩ := done
    exact .cluster (.update (ClusterPredictor.tracks_add headers)
      (fun restorable => restorable.accept headers) updated) (revised_clearMistake cleared)
  | remove headers mailbox =>
    obtain ⟨_, done, rfl⟩ := Outcome.map_eq_ok_iff.1 served
    rw [ClusterPredictor.remove_eq, Outcome.map_eq_ok_iff] at done
    obtain ⟨boxes, updated, rfl⟩ := done
    exact .cluster (.update (ClusterPredictor.tracks_remove headers)
      (fun restorable => restorable.withdrawAll [headers]) updated) .same
  | mistake headers mailbox =>
    obtain ⟨_, done, rfl⟩ := Outcome.map_eq_ok_iff.1 served
    cases known : predictor.mistakes.get? mailbox with
    | none =>
      rw [ClusterPredictor.addMistake_of_unknown known, Outcome.map_eq_ok_iff] at done
      obtain ⟨model, built, rfl⟩ := done
      exact .cluster .same (.insert built)
    | some held =>
      rw [ClusterPredictor.addMistake_of_known known, Outcome.map_eq_ok_iff] at done
      obtain ⟨mistakes, noted, rfl⟩ := done
      exact .cluster .same (.update (ClusterPredictor.tracks_add headers)
        (fun restorable => restorable.accept headers) noted)

theorem serves_of_serve (served : predictor.serve request = .ok next) :
    Serves request predictor next := by
  cases predictor with
  | sliding predictor => exact serves_sliding served
  | template predictor => exact serves_template served
  | cluster predictor => exact serves_cluster served

def MadeOfArrivals : Predictor α → Prop
  | .sliding _ => True
  | .template predictor =>
    Registry.MadeBy (TemplatePredictor.modelsOf predictor.settings) predictor.boxes
  | .cluster predictor =>
    Registry.MadeBy (ClusterModel.build predictor.limits) predictor.boxes ∧
      Registry.MadeBy (ClusterModel.build predictor.limits) predictor.mistakes

theorem madeOfArrivals_ofKind (settings : Settings α) (kind : PredictorKind) :
    (ofKind settings kind).MadeOfArrivals := by
  cases kind with
  | sliding => trivial
  | template => exact Registry.madeBy_empty
  | cluster => exact ⟨Registry.madeBy_empty, Registry.madeBy_empty⟩

theorem MadeOfArrivals.after (made : predictor.MadeOfArrivals) (request : Request) :
    (predictor.after request).MadeOfArrivals := by
  rw [Predictor.after]
  cases served : predictor.serve request with
  | error fault => exact made
  | ok next =>
    cases serves_of_serve served with
    | sliding revised => trivial
    | template revised => exact revised.madeBy made
    | cluster revised mistaken => exact ⟨revised.madeBy made.1, mistaken.madeBy made.2⟩

theorem MadeOfArrivals.run (made : predictor.MadeOfArrivals) (requests : List Request) :
    (predictor.run requests).MadeOfArrivals := by
  induction requests generalizing predictor with
  | nil => exact made
  | cons request later ih => exact ih (made.after request)

end Predictor

end MailSort
