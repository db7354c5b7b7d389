import MailSort.Proofs.ClusterModel.Confidence
import MailSort.Proofs.Predictor.Clearing
import MailSort.Proofs.Predictor.Undoing
import MailSort.Proofs.Sliding.Overlap

/-! # Scores of filed headers

Headers of two characters or more that are in a mailbox score above 0 with it, whatever was asked
before (`Predictor.run_score_of_filed`).  All models of the mailbox hold them, and each of them is
confident of what it holds, as long as the checks on the way to its template compile.
-/

namespace MailSort

namespace Predictor

/-! ## What requests leave as it is -/

def segmentLengths {α : Type} : Predictor α → List Nat
  | .sliding _ => []
  | .template predictor => predictor.settings.segmentLengths
  | .cluster predictor => predictor.limits.segmentLengths

def clusterLimits? {α : Type} : Predictor α → Option (ClusterLimits α)
  | .sliding _ | .template _ => none
  | .cluster predictor => some predictor.limits

section Requests

variable [Compiler] {α : Type} [Score α]

theorem setup_after (predictor : Predictor α) (request : Request) :
    (predictor.after request).kind = predictor.kind ∧
      (predictor.after request).segmentLengths = predictor.segmentLengths ∧
      (predictor.after request).clusterLimits? = predictor.clusterLimits? := by
  rw [after]
  cases served : predictor.serve request with
  | error fault => exact ⟨rfl, rfl, rfl⟩
  | ok next => cases serves_of_serve served <;> exact ⟨rfl, rfl, rfl⟩

theorem setup_run (predictor : Predictor α) (requests : List Request) :
    (predictor.run requests).kind = predictor.kind ∧
      (predictor.run requests).segmentLengths = predictor.segmentLengths ∧
      (predictor.run requests).clusterLimits? = predictor.clusterLimits? := by
  induction requests generalizing predictor with
  | nil => exact ⟨rfl, rfl, rfl⟩
  | cons request later ih =>
    obtain ⟨kind, lengths, limits⟩ := setup_after predictor request
    obtain ⟨kind', lengths', limits'⟩ := ih (predictor.after request)
    exact ⟨kind'.trans kind, lengths'.trans lengths, limits'.trans limits⟩

theorem kind_run_ofKind (settings : Settings α) (kind : PredictorKind) (requests : List Request) :
    ((ofKind settings kind).run requests).kind = kind := by
  rw [(setup_run _ requests).1]
  cases kind <;> rfl

end Requests

/-! ## Scores -/

/-- Whether headers are alone in one of the clusters of a mailbox. -/
def setsApart {α : Type} (headers mailbox : Text) : Predictor α → Bool
  | .sliding _ | .template _ => false
  | .cluster predictor => (predictor.boxes.get? mailbox).any fun model =>
    model.buckets.any fun bucket => bucket.clusters.any fun home => home.samples = [headers]

def ChecksCompile [Compiler] (mailbox : Text) : Predictor Rat → Prop
  | .sliding _ => True
  | .template predictor => ∀ models, predictor.boxes.get? mailbox = some models →
    ∀ model ∈ models, model.ChecksCompile
  | .cluster predictor => ∀ model, predictor.boxes.get? mailbox = some model → model.ChecksCompile

/-- With the compiler that is used when no other is chosen they always do. -/
theorem checksCompile (mailbox : Text) (predictor : Predictor Rat) :
    predictor.ChecksCompile mailbox := by
  cases predictor with
  | sliding => trivial
  | template => exact fun _ _ model _ => model.checksCompile
  | cluster => exact fun _ _ _ _ home _ => home.checksCompile

variable {headers mailbox : Text}

theorem score_of_sliding {predictor : SlidingPredictor} (two : 2 ≤ headers.length)
    (filed : (sliding predictor : Predictor Rat).files headers mailbox) :
    ((sliding predictor : Predictor Rat).scores headers).get? mailbox = some 1 := by
  obtain ⟨held, known, member⟩ := (Option.any_eq_true _ _).1 filed
  have nonempty : headers ≠ [] := List.ne_nil_of_length_pos (by omega)
  rw [scores, SlidingPredictor.scores, SortedMap.get?_mapValues, known, Option.map_some,
    SlidingPredictor.confidence_of_held nonempty (List.contains_iff_mem.1 member)]

variable [Compiler]

theorem score_of_template {predictor : TemplatePredictor}
    (made : (template predictor : Predictor Rat).MadeOfArrivals)
    (lengths : (template predictor : Predictor Rat).segmentLengths ≠ []) (two : 2 ≤ headers.length)
    (filed : (template predictor : Predictor Rat).files headers mailbox) :
    ∃ score, ((template predictor : Predictor Rat).scores headers).get? mailbox = some score ∧
      ((template predictor : Predictor Rat).ChecksCompile mailbox → 0 < score) := by
  obtain ⟨models, known, all⟩ := (Option.any_eq_true _ _).1 filed
  obtain ⟨log, -, built⟩ := made known
  have some_model : models ≠ [] := by
    rintro rfl
    exact lengths (TemplatePredictor.forall_of_modelsOf built).1.symm
  refine ⟨Score.mean (models.map fun model => model.confidence headers), ?_, fun checked => ?_⟩
  · rw [scores, TemplatePredictor.scores, SortedMap.get?_mapValues, known, Option.map_some,
      if_neg (by simpa using some_model)]
  · have typical : ∀ model ∈ models, (0 : Rat) < model.confidence headers := by
      intro model member
      have held := ArrivalLog.contains_iff.1 (List.all_eq_true.1 all model member)
      obtain ⟨least, _, step⟩ := Outcome.exists_of_mem_mapM built member
      obtain ⟨length, -, step⟩ := Outcome.bind_eq_ok_iff.1 step
      exact (TemplateModel.build_eq_ok_iff.1 step).1.confidence_pos
        (checked models known model member) held two
    exact Score.mean_pos (by simpa using some_model) (by simpa using typical)

/-- A mailbox without mistakes loses nothing of its score. -/
theorem MadeOfArrivals.mistakeScore_eq_zero {predictor : ClusterPredictor Rat}
    (made : (cluster predictor).MadeOfArrivals)
    (unmistaken : (cluster predictor).mistakes mailbox = []) (headers : Text) :
    predictor.mistakeScore mailbox headers = 0 := by
  rw [ClusterPredictor.mistakeScore]
  cases known : predictor.mistakes.get? mailbox with
  | none => rfl
  | some model =>
    obtain ⟨log, -, built⟩ := made.2 known
    obtain ⟨current, rfl⟩ := ClusterModel.build_eq_ok_iff.1 built
    rw [mistakes, mistakeModel?, known] at unmistaken
    exact current.confidence_of_no_samples unmistaken headers

theorem score_of_cluster {predictor : ClusterPredictor Rat}
    (made : (cluster predictor).MadeOfArrivals) (lengths : (cluster predictor).segmentLengths ≠ [])
    (two : 2 ≤ headers.length) (filed : (cluster predictor).files headers mailbox)
    (unmistaken : (cluster predictor).mistakes mailbox = []) :
    ∃ score, ((cluster predictor).scores headers).get? mailbox = some score ∧
      ((cluster predictor).ChecksCompile mailbox → 0 < score) ∧
      ((cluster predictor).setsApart headers mailbox → score = 1) := by
  obtain ⟨model, known, held⟩ := (Option.any_eq_true _ _).1 filed
  obtain ⟨log, -, built⟩ := made.1 known
  obtain ⟨current, rfl⟩ := ClusterModel.build_eq_ok_iff.1 built
  refine ⟨Score.clamp (model.confidence headers), ?_, fun checked => ?_, fun apart => ?_⟩
  · rw [scores, ClusterPredictor.scores, SortedMap.get?_mapValues, known, Option.map_some,
      made.mistakeScore_eq_zero unmistaken, sub_zero]
  · have present := ArrivalLog.contains_iff.1 held
    exact Score.clamp_pos (current.confidence_pos (checked model known) lengths present two)
  · rw [setsApart, known] at apart
    simp only [Option.any_some, List.any_eq_true, decide_eq_true_eq] at apart
    obtain ⟨bucket, member, home, inside, alone⟩ := apart
    rw [ClusterModel.confidence_of_alone member inside alone two, Score.clamp_of_one_le le_rfl]

/-- Within limits that no stranger can meet, clusters have nothing to check. -/
theorem MadeOfArrivals.checksCompile {predictor : ClusterPredictor Rat}
    (made : (cluster predictor).MadeOfArrivals) (confident : 0 < predictor.limits.minConfidence)
    (nonneg : 0 ≤ predictor.limits.minEquality) (mailbox : Text) :
    (cluster predictor).ChecksCompile mailbox := by
  intro model known
  obtain ⟨log, -, built⟩ := made.1 known
  exact (ClusterModel.build_eq_ok_iff.1 built).1.checksCompile confident nonneg

/-- Whatever was asked before, headers of two characters or more that are in a mailbox score above 0
    with it if the checks of its models compile, as they always do with clusters that demand some
    confidence; with a predictor that keeps no models, or if they are alone in a cluster, they score
    1.  A predictor that keeps models has to keep them for some segment length, and the mailbox must
    be without mistakes. -/
theorem run_score_of_filed (settings : Settings Rat) (kind : PredictorKind)
    (requests : List Request) {headers mailbox : Text}
    (lengths : kind ≠ .sliding → (ofKind settings kind).segmentLengths ≠ [])
    (two : 2 ≤ headers.length)
    (filed : ((ofKind settings kind).run requests).files headers mailbox)
    (unmistaken : ((ofKind settings kind).run requests).mistakes mailbox = []) :
    ∃ score, (((ofKind settings kind).run requests).scores headers).get? mailbox = some score ∧
      (((ofKind settings kind).run requests).ChecksCompile mailbox → 0 < score) ∧
      (kind = .cluster → 0 < settings.cluster.minConfidence → 0 ≤ settings.cluster.minEquality →
        0 < score) ∧
      (kind = .sliding → score = 1) ∧
      (((ofKind settings kind).run requests).setsApart headers mailbox → score = 1) := by
  have made := (madeOfArrivals_ofKind settings kind).run requests
  have same := kind_run_ofKind settings kind requests
  -- The predictor is still of its kind and has its segment lengths and limits.
  obtain ⟨-, same_lengths, limits⟩ := setup_run (ofKind settings kind) requests
  rw [← same_lengths] at lengths
  clear same_lengths
  revert made same lengths limits filed unmistaken
  generalize (ofKind settings kind).run requests = predictor
  intro lengths filed unmistaken made same limits
  cases predictor with
  | sliding predictor =>
    obtain rfl : PredictorKind.sliding = kind := same
    exact ⟨1, score_of_sliding two filed, fun _ => one_pos, nofun, fun _ => rfl, fun _ => rfl⟩
  | template predictor =>
    obtain rfl : PredictorKind.template = kind := same
    obtain ⟨score, scored, positive⟩ := score_of_template made (lengths nofun) two filed
    exact ⟨score, scored, positive, nofun, nofun, nofun⟩
  | cluster predictor =>
    obtain rfl : PredictorKind.cluster = kind := same
    obtain ⟨score, scored, positive, apart⟩ :=
      score_of_cluster made (lengths nofun) two filed unmistaken
    have same_limits : predictor.limits = settings.cluster := Option.some.inj limits
    refine ⟨score, scored, positive, fun _ confident nonneg => ?_, nofun, apart⟩
    rw [← same_limits] at confident nonneg
    exact positive (made.checksCompile confident nonneg mailbox)

end Predictor

namespace Predictor

/-- One of the headers was a mistake before and is alone in its clusters; the other one shares a
    cluster. -/
theorem run_score_of_filed_after_mistake :
    ∃ (requests : List Request) (score : Rat),
      requests = [.consider "Ids".toList ["id=1;ok".toList], .mistake "hello".toList "Ids".toList,
        .add "hello".toList "Ids".toList, .add "id=22;ok".toList "Ids".toList] ∧
      ((((ofKind .standard .cluster).run requests).scores "hello".toList).get? "Ids".toList =
        some (1 : Rat)) ∧
      ((((ofKind .standard .cluster).run requests).scores "id=22;ok".toList).get? "Ids".toList =
        some score) ∧
      0 < score := by
  obtain ⟨requests, listed⟩ : ∃ requests : List Request,
      requests = [.consider "Ids".toList ["id=1;ok".toList], .mistake "hello".toList "Ids".toList,
        .add "hello".toList "Ids".toList, .add "id=22;ok".toList "Ids".toList] :=
    ⟨_, rfl⟩
  obtain ⟨filed, apart, shared, unmistaken⟩ :
      ((ofKind .standard .cluster : Predictor Rat).run requests).files "hello".toList "Ids".toList ∧
      ((ofKind .standard .cluster : Predictor Rat).run requests).setsApart "hello".toList
        "Ids".toList ∧
      ((ofKind .standard .cluster : Predictor Rat).run requests).files "id=22;ok".toList
        "Ids".toList ∧
      ((ofKind .standard .cluster : Predictor Rat).run requests).mistakes "Ids".toList = [] := by
    rw [listed]
    decide +kernel
  obtain ⟨full, scored, -, -, -, alone⟩ := run_score_of_filed .standard .cluster requests
    (fun _ => List.cons_ne_nil _ _) (by decide) filed unmistaken
  obtain ⟨score, scored', positive, -⟩ := run_score_of_filed .standard .cluster requests
    (fun _ => List.cons_ne_nil _ _) (by decide) shared unmistaken
  rw [alone apart] at scored
  exact ⟨requests, score, listed, scored, scored', positive (checksCompile _ _)⟩

end Predictor

end MailSort
