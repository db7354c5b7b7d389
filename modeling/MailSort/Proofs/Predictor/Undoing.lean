import MailSort.Proofs.Predictor.Requests
import MailSort.Proofs.Sliding.Histogram

/-! # Undoing

Headers that are removed from a mailbox and added again, or the other way round, leave all scores
as they were.  A model that is made of arrivals gets them back in their old order, as the last
withdrawal is undone first; a mailbox without a model gets its headers back in another order,
which makes no difference to the scores (`Histogram.confidence_of_perm`).
-/

namespace MailSort

namespace Registry

variable {μ : Type} {registry next : Registry μ} {mailbox sample : Text} {held : μ}
  {build : ArrivalLog → Except Fault μ} {add remove : μ → Except Fault μ} {log : ArrivalLog}

theorem update_add_of_remove (adds : Tracks build add (·.accept sample))
    (removes : Tracks build remove (·.withdrawAll [sample]))
    (known : registry.get? mailbox = some held) (built : build log = .ok held)
    (member : sample ∈ log.samples) (removed : registry.update mailbox remove = .ok next) :
    next.update mailbox add = .ok registry := by
  obtain ⟨out, withdrawn⟩ := ArrivalLog.exists_withdraw? member
  have back : (log.withdrawAll [sample]).accept sample = log := by
    rw [ArrivalLog.withdrawAll, List.foldl_cons, withdrawn]
    exact ArrivalLog.accept_of_withdraw? withdrawn
  rw [update_of_update removes adds known built removed, back, built]
  exact congrArg Except.ok (SortedMap.insert_eq_self known)

/-- The samples come back as they were, but perhaps with other withdrawals. -/
theorem update_remove_of_add (adds : Tracks build add (·.accept sample))
    (removes : Tracks build remove (·.withdrawAll [sample]))
    (known : registry.get? mailbox = some held) (built : build log = .ok held)
    (restorable : log.Restorable) (added : registry.update mailbox add = .ok next) :
    ∃ back : ArrivalLog, back.samples = log.samples ∧
      next.update mailbox remove = (build back).map (registry.insert mailbox) := by
  obtain ⟨back, withdrawn, same⟩ := restorable.exists_withdraw?_accept sample
  have out : (log.accept sample).withdrawAll [sample] = back := by
    rw [ArrivalLog.withdrawAll, List.foldl_cons, withdrawn]
    rfl
  refine ⟨back, same, ?_⟩
  rw [update_of_update adds removes known built added, out]

end Registry

section

variable {α : Type} [Score α] {headers mailbox : Text}

/-! ## Without a model -/

namespace SlidingPredictor

variable [Score.Separated α] {predictor next : SlidingPredictor} {held held' : List Text}

theorem scores_of_perm (known : predictor.boxes.get? mailbox = some held)
    (same : held'.Perm held) (candidate : Text) :
    ({ predictor with boxes := predictor.boxes.insert mailbox held' } : SlidingPredictor).scores
      candidate = (predictor.scores candidate : SortedMap Text α) :=
  SortedMap.mapValues_insert_eq_self known
    (Histogram.confidence_of_perm (same.filterMap (overlapScore? candidate)) predictor.bins)

variable (α) in
theorem exists_add_of_remove (known : predictor.boxes.get? mailbox = some held)
    (member : headers ∈ held) (removed : predictor.remove headers mailbox = .ok next) :
    ∃ again, next.add headers mailbox = .ok again ∧
      ∀ candidate, again.scores candidate = (predictor.scores candidate : SortedMap Text α) := by
  rw [remove_eq, Registry.update_of_known known] at removed
  cases removed
  have same : (held.erase headers ++ [headers]).Perm held :=
    (List.perm_append_singleton headers _).trans (List.perm_cons_erase member).symm
  refine ⟨_, ?_, scores_of_perm known same⟩
  rw [add_eq, Registry.update_insert]
  rfl

variable (α) in
theorem exists_remove_of_add (added : predictor.add headers mailbox = .ok next) :
    ∃ again, next.remove headers mailbox = .ok again ∧
      ∀ candidate, again.scores candidate = (predictor.scores candidate : SortedMap Text α) := by
  rw [add_eq, Outcome.map_eq_ok_iff] at added
  obtain ⟨boxes, updated, rfl⟩ := added
  obtain ⟨held, _, known, done, rfl⟩ := Registry.update_eq_ok_iff.1 updated
  cases done
  have same : ((held ++ [headers]).erase headers).Perm held := by
    have first := (List.perm_append_singleton headers held).erase headers
    rwa [List.erase_cons_head] at first
  refine ⟨_, ?_, scores_of_perm known same⟩
  rw [remove_eq, Registry.update_insert]
  rfl

end SlidingPredictor

/-! ## With templates -/

theorem TemplateModel.confidence_of_samples_eq {model : TemplateModel} {arrivals : ArrivalLog}
    (same : arrivals.samples = model.arrivals.samples) (candidate : Text) :
    ({ model with arrivals := arrivals } : TemplateModel).confidence candidate =
      (model.confidence candidate : α) := by
  rw [confidence, confidence, coverage, coverage, samples, samples, same]

namespace TemplatePredictor

variable {predictor next : TemplatePredictor} {models : List TemplateModel} {log : ArrivalLog}

theorem scores_of_arrivals (known : predictor.boxes.get? mailbox = some models)
    {arrivals : ArrivalLog} (same : ∀ model ∈ models, arrivals.samples = model.arrivals.samples)
    (candidate : Text) :
    ({ predictor with
        boxes := predictor.boxes.insert mailbox
          (models.map fun model => { model with arrivals := arrivals }) } :
      TemplatePredictor).scores candidate = (predictor.scores candidate : SortedMap Text α) := by
  refine SortedMap.mapValues_insert_eq_self known ?_
  have alike : (models.map fun model => { model with arrivals := arrivals }).map
      (fun model => (model.confidence candidate : α)) =
      models.map fun model => model.confidence candidate := by
    rw [List.map_map]
    exact List.map_congr_left fun model member =>
      TemplateModel.confidence_of_samples_eq (same model member) candidate
  rw [alike, List.isEmpty_map]

variable [Compiler]

/-- Models that all have a sample are made of arrivals with it. -/
theorem exists_mem_of_modelsOf {settings : TemplateSettings}
    (built : modelsOf settings log = .ok models)
    (all : ∀ model ∈ models, headers ∈ model.arrivals.samples) :
    ∃ arrivals, headers ∈ arrivals.samples ∧ modelsOf settings arrivals = .ok models := by
  obtain ⟨lengths, same⟩ := forall_of_modelsOf built
  cases models with
  | nil =>
    -- Without segment lengths there is nothing to tell the arrivals from.
    have none : settings.segmentLengths = [] := lengths.symm
    refine ⟨.ofSamples [headers], List.mem_singleton_self headers, ?_⟩
    rw [modelsOf, none]
    rfl
  | cons model others =>
    have member := all model List.mem_cons_self
    rw [same model List.mem_cons_self] at member
    exact ⟨log, member, built⟩

theorem add_of_remove (known : predictor.boxes.get? mailbox = some models)
    (built : modelsOf predictor.settings log = .ok models)
    (all : ∀ model ∈ models, headers ∈ model.arrivals.samples)
    (removed : predictor.remove headers mailbox = .ok next) :
    next.add headers mailbox = .ok predictor := by
  rw [remove_eq, Outcome.map_eq_ok_iff] at removed
  obtain ⟨boxes, updated, rfl⟩ := removed
  obtain ⟨arrivals, member, made⟩ := exists_mem_of_modelsOf built all
  have back := Registry.update_add_of_remove (tracks_add headers) (tracks_remove headers) known made
    member updated
  rw [add_eq, back]
  rfl

variable (α) in
theorem exists_remove_of_add
    (made : Registry.MadeBy (modelsOf predictor.settings) predictor.boxes)
    (added : predictor.add headers mailbox = .ok next) :
    ∃ again, next.remove headers mailbox = .ok again ∧
      ∀ candidate, again.scores candidate = (predictor.scores candidate : SortedMap Text α) := by
  rw [add_eq, Outcome.map_eq_ok_iff] at added
  obtain ⟨boxes, updated, rfl⟩ := added
  obtain ⟨models, _, known, _⟩ := Registry.update_eq_ok_iff.1 updated
  obtain ⟨log, restorable, built⟩ := made known
  obtain ⟨back, same, removed⟩ := Registry.update_remove_of_add (tracks_add headers)
    (tracks_remove headers) known built restorable updated
  have alike : ∀ model ∈ models, back.samples = model.arrivals.samples := by
    intro model member
    rw [same, (forall_of_modelsOf built).2 model member]
  refine ⟨_, ?_, scores_of_arrivals known alike⟩
  rw [remove_eq, removed, modelsOf_of_samples_eq built same]
  rfl

end TemplatePredictor

/-! ## With clusters -/

namespace ClusterPredictor

variable [Compiler] {predictor next : ClusterPredictor α} {model : ClusterModel α}
  {log : ArrivalLog}

theorem add_of_remove (known : predictor.boxes.get? mailbox = some model)
    (built : ClusterModel.build predictor.limits log = .ok model) (member : headers ∈ log.samples)
    (unmistaken : ¬ (Predictor.cluster predictor).mistaken headers mailbox)
    (removed : predictor.remove headers mailbox = .ok next) :
    next.add headers mailbox = .ok predictor := by
  rw [remove_eq, Outcome.map_eq_ok_iff] at removed
  obtain ⟨boxes, updated, rfl⟩ := removed
  have back := Registry.update_add_of_remove (tracks_add headers) (tracks_remove headers) known
    built member updated
  have kept : ¬ (Predictor.cluster { predictor with boxes := boxes }).mistaken headers mailbox :=
    unmistaken
  rw [add_of_unmistaken kept, back]
  rfl

theorem exists_remove_of_add
    (made : Registry.MadeBy (ClusterModel.build predictor.limits) predictor.boxes)
    (unmistaken : ¬ (Predictor.cluster predictor).mistaken headers mailbox)
    (added : predictor.add headers mailbox = .ok next) :
    ∃ again, next.remove headers mailbox = .ok again ∧
      ∀ candidate, again.scores candidate = predictor.scores candidate := by
  rw [add_of_unmistaken unmistaken, Outcome.map_eq_ok_iff] at added
  obtain ⟨boxes, updated, rfl⟩ := added
  obtain ⟨model, _, known, _⟩ := Registry.update_eq_ok_iff.1 updated
  obtain ⟨log, restorable, built⟩ := made known
  obtain ⟨back, same, removed⟩ := Registry.update_remove_of_add (tracks_add headers)
    (tracks_remove headers) known built restorable updated
  refine ⟨{ predictor with
    boxes := predictor.boxes.insert mailbox { model with arrivals := back } }, ?_, ?_⟩
  · rw [remove_eq, removed, ClusterModel.build_of_samples_eq built same]
    rfl
  · -- The arrivals of a cluster model have no part in its confidence.
    exact fun candidate => SortedMap.mapValues_insert_eq_self known rfl

end ClusterPredictor

/-! ## With any predictor -/

namespace Predictor

variable [Compiler]

def files (headers mailbox : Text) : Predictor α → Bool
  | .sliding predictor => (predictor.boxes.get? mailbox).any (·.contains headers)
  | .template predictor =>
    (predictor.boxes.get? mailbox).any (·.all (·.arrivals.contains headers))
  | .cluster predictor => (predictor.boxes.get? mailbox).any (·.contains headers)

variable [Score.Separated α] {predictor next : Predictor α}

theorem MadeOfArrivals.exists_add_of_remove (made : predictor.MadeOfArrivals)
    (unmistaken : ¬ predictor.mistaken headers mailbox) (filed : predictor.files headers mailbox)
    (removed : predictor.remove headers mailbox = .ok next) :
    ∃ again, next.add headers mailbox = .ok again ∧
      ∀ candidate, again.scores candidate = predictor.scores candidate := by
  cases predictor with
  | sliding predictor =>
    obtain ⟨held, known, member⟩ := (Option.any_eq_true _ _).1 filed
    obtain ⟨less, done, rfl⟩ := Outcome.map_eq_ok_iff.1 removed
    obtain ⟨again, added, same⟩ := SlidingPredictor.exists_add_of_remove α known
      (List.contains_iff_mem.1 member) done
    exact ⟨.sliding again, Outcome.map_eq_ok_iff.2 ⟨again, added, rfl⟩, same⟩
  | template predictor =>
    obtain ⟨models, known, all⟩ := (Option.any_eq_true _ _).1 filed
    obtain ⟨less, done, rfl⟩ := Outcome.map_eq_ok_iff.1 removed
    obtain ⟨log, _, built⟩ := made known
    have members : ∀ model ∈ models, headers ∈ model.arrivals.samples := fun model member =>
      ArrivalLog.contains_iff.1 (List.all_eq_true.1 all model member)
    have added := TemplatePredictor.add_of_remove known built members done
    exact ⟨.template predictor, Outcome.map_eq_ok_iff.2 ⟨predictor, added, rfl⟩, fun _ => rfl⟩
  | cluster predictor =>
    obtain ⟨model, known, member⟩ := (Option.any_eq_true _ _).1 filed
    obtain ⟨less, done, rfl⟩ := Outcome.map_eq_ok_iff.1 removed
    obtain ⟨log, _, built⟩ := made.1 known
    obtain ⟨_, rfl⟩ := ClusterModel.build_eq_ok_iff.1 built
    have added := ClusterPredictor.add_of_remove known built (ArrivalLog.contains_iff.1 member)
      unmistaken done
    exact ⟨.cluster predictor, Outcome.map_eq_ok_iff.2 ⟨predictor, added, rfl⟩, fun _ => rfl⟩

theorem MadeOfArrivals.exists_remove_of_add (made : predictor.MadeOfArrivals)
    (unmistaken : ¬ predictor.mistaken headers mailbox)
    (added : predictor.add headers mailbox = .ok next) :
    ∃ again, next.remove headers mailbox = .ok again ∧
      ∀ candidate, again.scores candidate = predictor.scores candidate := by
  cases predictor with
  | sliding predictor =>
    obtain ⟨more, done, rfl⟩ := Outcome.map_eq_ok_iff.1 added
    obtain ⟨again, removed, same⟩ := SlidingPredictor.exists_remove_of_add α done
    exact ⟨.sliding again, Outcome.map_eq_ok_iff.2 ⟨again, removed, rfl⟩, same⟩
  | template predictor =>
    obtain ⟨more, done, rfl⟩ := Outcome.map_eq_ok_iff.1 added
    obtain ⟨again, removed, same⟩ := TemplatePredictor.exists_remove_of_add α made done
    exact ⟨.template again, Outcome.map_eq_ok_iff.2 ⟨again, removed, rfl⟩, same⟩
  | cluster predictor =>
    obtain ⟨more, done, rfl⟩ := Outcome.map_eq_ok_iff.1 added
    obtain ⟨again, removed, same⟩ :=
      ClusterPredictor.exists_remove_of_add made.1 unmistaken done
    exact ⟨.cluster again, Outcome.map_eq_ok_iff.2 ⟨again, removed, rfl⟩, same⟩

/-- Whatever was asked before, headers that are removed from a mailbox can be added again, and the
    other way round, and then all scores are as they were. -/
theorem run_undoes (settings : Settings α) (kind : PredictorKind) (requests : List Request)
    {headers mailbox : Text}
    (unmistaken : ¬ ((ofKind settings kind).run requests).mistaken headers mailbox) :
    (((ofKind settings kind).run requests).files headers mailbox →
      ∀ less, ((ofKind settings kind).run requests).remove headers mailbox = .ok less →
        ∃ again, less.add headers mailbox = .ok again ∧ ∀ candidate,
          again.scores candidate = ((ofKind settings kind).run requests).scores candidate) ∧
      ∀ more, ((ofKind settings kind).run requests).add headers mailbox = .ok more →
        ∃ again, more.remove headers mailbox = .ok again ∧ ∀ candidate,
          again.scores candidate = ((ofKind settings kind).run requests).scores candidate := by
  have made := (madeOfArrivals_ofKind settings kind).run requests
  exact ⟨fun filed less removed => made.exists_add_of_remove unmistaken filed removed,
    fun more added => made.exists_remove_of_add unmistaken added⟩

end Predictor

end

namespace Predictor

/-- Headers of which there are several return to another place, and the scores stay. -/
theorem run_undoes_repeated :
    ∃ (requests : List Request) (less more again again' : Predictor Float),
      requests = [.consider "Ids".toList ["abcd".toList, "xyzd".toList, "abcd".toList]] ∧
      ((ofKind .standard .sliding).run requests).remove "abcd".toList "Ids".toList = .ok less ∧
      less.add "abcd".toList "Ids".toList = .ok again ∧
      (∀ candidate, again.scores candidate =
        ((ofKind .standard .sliding).run requests).scores candidate) ∧
      ((ofKind .standard .sliding).run requests).add "abcd".toList "Ids".toList = .ok more ∧
      more.remove "abcd".toList "Ids".toList = .ok again' ∧
      ∀ candidate, again'.scores candidate =
        ((ofKind .standard .sliding).run requests).scores candidate := by
  have unmistaken : ¬ ((ofKind .standard .sliding : Predictor Float).run
      [.consider "Ids".toList ["abcd".toList, "xyzd".toList, "abcd".toList]]).mistaken
        "abcd".toList "Ids".toList := by
    decide +kernel
  have filed : ((ofKind .standard .sliding : Predictor Float).run
      [.consider "Ids".toList ["abcd".toList, "xyzd".toList, "abcd".toList]]).files
        "abcd".toList "Ids".toList := by
    decide +kernel
  obtain ⟨removing, adding⟩ := run_undoes .standard .sliding _ unmistaken
  obtain ⟨again, added, same⟩ := removing filed _ rfl
  obtain ⟨again', removed, same'⟩ := adding _ rfl
  exact ⟨_, _, _, again, again', rfl, rfl, added, same, rfl, removed, same'⟩

end Predictor

end MailSort
