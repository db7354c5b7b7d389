import MailSort.Proofs.Predictor.Requests
import Mathlib.Data.List.Induction

/-! # Loading

A mailbox is registered with all of its headers, or without any and then filled.  The second way
makes a model after every header where the first makes one in the end, but no header can be taken
in unless those before it can (`Registry.Grows`): the two ways succeed together, and then they
lead to the same predictor.
-/

namespace MailSort

namespace Registry

variable {μ : Type} {build : ArrivalLog → Except Fault μ} {change : μ → Text → Except Fault μ}

/-- What is made of samples is made of those before the last, and changed for the last. -/
def Grows (build : ArrivalLog → Except Fault μ) (change : μ → Text → Except Fault μ) : Prop :=
  ∀ ⦃samples : List Text⦄ ⦃sample : Text⦄ ⦃held : μ⦄,
    build (.ofSamples (samples ++ [sample])) = .ok held ↔
      (build (.ofSamples samples) >>= (change · sample)) = .ok held

theorem grows_of_tracks (tracks : ∀ sample, Tracks build (change · sample) (·.accept sample))
    (before : ∀ {samples : List Text} {sample : Text} {held : μ},
      build (.ofSamples (samples ++ [sample])) = .ok held →
        ∃ earlier, build (.ofSamples samples) = .ok earlier) :
    Grows build change := by
  intro samples sample held
  constructor
  · intro built
    obtain ⟨earlier, made⟩ := before built
    rw [made]
    exact (tracks sample made).trans built
  · intro grown
    obtain ⟨earlier, made, changed⟩ := Outcome.bind_eq_ok_iff.1 grown
    exact (tracks sample made).symm.trans changed

theorem Grows.foldlM (grows : Grows build change) (samples : List Text) {held : μ} :
    build (.ofSamples samples) = .ok held ↔
      (build (.ofSamples []) >>= samples.foldlM change) = .ok held := by
  induction samples using List.reverseRecOn generalizing held with
  | nil => simp [Outcome.bind_eq_ok_iff, pure, Except.pure]
  | append_singleton samples sample ih =>
    rw [grows, Outcome.bind_eq_ok_iff]
    simp only [ih]
    rw [← Outcome.bind_eq_ok_iff, bind_assoc]
    simp only [List.foldlM_append, List.foldlM_cons, List.foldlM_nil, bind_pure]

end Registry

theorem SlidingPredictor.grows :
    Registry.Grows heldOf fun held headers => .ok (held ++ [headers]) :=
  fun _ _ _ => Iff.rfl

section

variable [Compiler] {α : Type} [Score α]

theorem TemplatePredictor.grows (settings : TemplateSettings) :
    Registry.Grows (modelsOf settings)
      fun models headers => models.mapM fun model => model.add [headers] := by
  refine Registry.grows_of_tracks tracks_add fun built => ?_
  refine Outcome.exists_mapM_of_mapM (fun least model made => ?_) built
  obtain ⟨length, checked, made⟩ := Outcome.bind_eq_ok_iff.1 made
  rw [checked]
  exact TemplateModel.exists_build_of_concat made

theorem ClusterPredictor.grows (limits : ClusterLimits α) :
    Registry.Grows (ClusterModel.build limits) ClusterModel.add :=
  Registry.grows_of_tracks tracks_add ClusterModel.exists_build_of_concat

namespace Predictor

variable {predictor : Predictor α} {mailbox : Text}

theorem consider_iff_of_grows {μ : Type} {build : ArrivalLog → Except Fault μ}
    {change : μ → Text → Except Fault μ} (grows : Registry.Grows build change)
    (hold : μ → Predictor α)
    (considers : ∀ headers,
      predictor.consider mailbox headers = (build (.ofSamples headers)).map hold)
    {headers : List Text}
    (adds : ∀ next ∈ headers, ∀ held, (hold held).add next mailbox = (change held next).map hold)
    (loaded : Predictor α) :
    predictor.consider mailbox headers = .ok loaded ↔
      (predictor.consider mailbox [] >>= headers.foldlM fun grown next => grown.add next mailbox) =
        .ok loaded := by
  have fills (held : μ) : headers.foldlM (fun grown next => grown.add next mailbox) (hold held) =
      (headers.foldlM change held).map hold :=
    Outcome.foldlM_map adds held
  rw [considers, considers, Outcome.map_eq_ok_iff]
  simp only [grows.foldlM headers]
  cases build (.ofSamples []) with
  | error fault => simp [bind, Except.bind, Except.map]
  | ok first =>
    show _ ↔ List.foldlM _ (hold first) headers = Except.ok loaded
    rw [fills, Outcome.map_eq_ok_iff]
    rfl

/-- Loading a mailbox at once comes to the same as filling it, if nothing of it was put there by
    mistake. -/
theorem consider_iff (predictor : Predictor α) {mailbox : Text} {headers : List Text}
    (unmistaken : ∀ next ∈ headers, ¬ predictor.mistaken next mailbox) (loaded : Predictor α) :
    predictor.consider mailbox headers = .ok loaded ↔
      (predictor.consider mailbox [] >>= headers.foldlM fun grown next => grown.add next mailbox) =
        .ok loaded := by
  cases predictor with
  | sliding predictor =>
    refine consider_iff_of_grows SlidingPredictor.grows
      (fun held => .sliding { predictor with boxes := predictor.boxes.insert mailbox held })
      (fun headers => rfl) (fun next _ held => ?_) loaded
    rw [add, SlidingPredictor.add_eq, Registry.update_insert]
    rfl
  | template predictor =>
    refine consider_iff_of_grows (TemplatePredictor.grows predictor.settings)
      (fun held => .template { predictor with boxes := predictor.boxes.insert mailbox held })
      (fun headers => ?_) (fun next _ held => ?_) loaded
    · rw [consider, TemplatePredictor.consider_eq]
      cases TemplatePredictor.modelsOf predictor.settings (.ofSamples headers) <;> rfl
    · rw [add, TemplatePredictor.add_eq, Registry.update_insert]
      cases held.mapM fun model => model.add [next] <;> rfl
  | cluster predictor =>
    refine consider_iff_of_grows (ClusterPredictor.grows predictor.limits)
      (fun held => .cluster { predictor with boxes := predictor.boxes.insert mailbox held })
      (fun headers => ?_) (fun next member held => ?_) loaded
    · rw [consider, ClusterPredictor.consider_eq]
      cases ClusterModel.build predictor.limits (.ofSamples headers) <;> rfl
    · -- The mistakes are those of the predictor, whatever the mailbox holds.
      have kept : ¬ (cluster { predictor with
          boxes := predictor.boxes.insert mailbox held }).mistaken next mailbox :=
        unmistaken next member
      rw [add, ClusterPredictor.add_of_unmistaken kept, Registry.update_insert]
      cases held.add next <;> rfl

/-- Whatever was asked before, loading a mailbox at once succeeds just if filling it does, and then
    the predictor is the same and so are its scores.  The templates of a mailbox, one for each
    segment length, are always of the same arrivals. -/
theorem run_loads (settings : Settings α) (kind : PredictorKind) (requests : List Request) :
    (∀ {mailbox headers},
      (∀ next ∈ headers, ¬ ((ofKind settings kind).run requests).mistaken next mailbox) →
        ∀ loaded, ((ofKind settings kind).run requests).consider mailbox headers = .ok loaded ↔
          (((ofKind settings kind).run requests).consider mailbox [] >>=
            headers.foldlM fun grown next => grown.add next mailbox) = .ok loaded) ∧
      ∀ {predictor mailbox models}, (ofKind settings kind).run requests = .template predictor →
        predictor.boxes.get? mailbox = some models →
          models.map (·.segmentLength.chars) = predictor.settings.segmentLengths ∧
            ∃ arrivals : ArrivalLog, ∀ model ∈ models, model.arrivals = arrivals := by
  refine ⟨consider_iff _, fun {predictor mailbox models} reached known => ?_⟩
  have made := (madeOfArrivals_ofKind settings kind).run requests
  rw [reached] at made
  obtain ⟨log, _, built⟩ := made known
  obtain ⟨lengths, same⟩ := TemplatePredictor.forall_of_modelsOf built
  exact ⟨lengths, log, same⟩

end Predictor

end

namespace Predictor

/-- Headers that were mistaken for others do not count when a mailbox is loaded; and a mailbox has
    as many templates as there are segment lengths. -/
theorem run_loads_after_requests :
    ∃ (settings : Settings Rat) (loaded : Predictor Rat) (predictor : TemplatePredictor)
        (models : List TemplateModel) (arrivals : ArrivalLog),
      (((ofKind settings .cluster).run [.mistake "hello".toList "Ids".toList]).consider
          "Ids".toList [] >>= ["id=1;ok".toList, "id=22;ok".toList].foldlM fun grown next =>
            grown.add next "Ids".toList) = .ok loaded ∧
        (ofKind settings .template).run [.consider "Ids".toList ["id=1;ok".toList]] =
          .template predictor ∧
        predictor.boxes.get? "Ids".toList = some models ∧
        models.map (·.segmentLength.chars) = predictor.settings.segmentLengths ∧
        ∀ model ∈ models, model.arrivals = arrivals := by
  have unmistaken : ∀ next ∈ ["id=1;ok".toList, "id=22;ok".toList],
      ¬ ((ofKind .standard .cluster : Predictor Rat).run
        [.mistake "hello".toList "Ids".toList]).mistaken next "Ids".toList := by
    decide +kernel
  have succeeds : (((ofKind .standard .cluster : Predictor Rat).run
      [.mistake "hello".toList "Ids".toList]).consider "Ids".toList
        ["id=1;ok".toList, "id=22;ok".toList]).isOk := by
    decide +kernel
  obtain ⟨loaded, considered⟩ := Outcome.isOk_iff.1 succeeds
  obtain ⟨predictor, models, reached, known⟩ : ∃ predictor models,
      (ofKind .standard .template : Predictor Rat).run
        [.consider "Ids".toList ["id=1;ok".toList]] = .template predictor ∧
      predictor.boxes.get? "Ids".toList = some models :=
    ⟨_, _, rfl, rfl⟩
  obtain ⟨lengths, arrivals, same⟩ := (run_loads .standard .template _).2 reached known
  exact ⟨.standard, loaded, predictor, models, arrivals,
    ((run_loads .standard .cluster _).1 unmistaken loaded).1 considered, reached, known,
    lengths, same⟩

end Predictor

end MailSort
