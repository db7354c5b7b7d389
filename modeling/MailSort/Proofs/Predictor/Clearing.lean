import MailSort.Proofs.Predictor.Requests
import Mathlib.Data.List.Perm.Basic

/-! # Clearing mistakes

Headers that are filed in a mailbox on purpose are taken out of its mistakes once, and the other
mistakes stay as they are (`Predictor.run_add_clears_once`).  So headers that were recorded as a
mistake several times are still one afterwards.
-/

namespace MailSort

namespace ArrivalLog

variable {log next : ArrivalLog} {sample : Text}

theorem perm_of_withdraw? (out : log.withdraw? sample = some next) :
    log.samples.Perm (sample :: next.samples) := by
  obtain ⟨⟨place, left⟩, taken, rfl⟩ := Option.map_eq_some_iff.1 out
  obtain ⟨inside, restored⟩ := insertIdx_of_takeLast? taken
  rw [← restored]
  exact List.perm_insertIdx sample left inside

/-- One occurrence of the sample is taken out, if it occurs, and nothing else. -/
theorem count_withdrawAll_singleton (log : ArrivalLog) (sample other : Text) :
    (log.withdrawAll [sample]).samples.count other =
      log.samples.count other - if sample = other then 1 else 0 := by
  by_cases member : sample ∈ log.samples
  · obtain ⟨next, out⟩ := exists_withdraw? member
    have once : log.withdrawAll [sample] = next := by
      rw [withdrawAll, List.foldl_cons, out]
      rfl
    rw [once, (perm_of_withdraw? out).count_eq, List.count_cons]
    simp
  · rw [withdrawAll_eq_self (by simpa using member)]
    split
    · next same => rw [← same, List.count_eq_zero_of_not_mem member]
    · rfl

end ArrivalLog

namespace Predictor

variable {α : Type} {headers mailbox : Text}

def mistakeModel? (mailbox : Text) : Predictor α → Option (ClusterModel α)
  | .sliding _ | .template _ => none
  | .cluster predictor => predictor.mistakes.get? mailbox

/-- The headers that were put into a mailbox by mistake, each as often as it was recorded. -/
def mistakes (mailbox : Text) (predictor : Predictor α) : List Text :=
  ((predictor.mistakeModel? mailbox).map (·.arrivals.samples)).getD []

theorem mistaken_iff {predictor : Predictor α} :
    predictor.mistaken headers mailbox ↔ headers ∈ predictor.mistakes mailbox := by
  cases predictor with
  | sliding predictor => simp [mistaken, mistakes, mistakeModel?]
  | template predictor => simp [mistaken, mistakes, mistakeModel?]
  | cluster predictor =>
    rw [mistaken, mistakes, mistakeModel?]
    cases predictor.mistakes.get? mailbox with
    | none => simp
    | some held => exact ArrivalLog.contains_iff

variable [Compiler] [Score α] {predictor next : Predictor α}

/-- Headers that are added to a mailbox are one of its mistakes one time less, and other headers
    as often as before. -/
theorem MadeOfArrivals.count_mistakes_add (made : predictor.MadeOfArrivals)
    (added : predictor.add headers mailbox = .ok next) (other : Text) :
    (next.mistakes mailbox).count other =
      (predictor.mistakes mailbox).count other - if headers = other then 1 else 0 := by
  cases predictor with
  | sliding predictor =>
    obtain ⟨more, -, rfl⟩ := Outcome.map_eq_ok_iff.1 added
    exact (Nat.zero_sub _).symm
  | template predictor =>
    obtain ⟨more, -, rfl⟩ := Outcome.map_eq_ok_iff.1 added
    exact (Nat.zero_sub _).symm
  | cluster predictor =>
    obtain ⟨more, done, rfl⟩ := Outcome.map_eq_ok_iff.1 added
    rw [ClusterPredictor.add_eq] at done
    simp only [Outcome.bind_eq_ok_iff, Outcome.map_eq_ok_iff] at done
    obtain ⟨_, _, mistakes, cleared, boxes, _, rfl⟩ := done
    cases known : predictor.mistakes.get? mailbox with
    | none =>
      rw [ClusterPredictor.clearMistake_of_unknown known] at cleared
      cases cleared
      simp [Predictor.mistakes, mistakeModel?, known]
    | some held =>
      obtain ⟨log, -, built⟩ := made.2 known
      rw [ClusterPredictor.clearMistake_of_known known, Registry.update_of_known known,
        ClusterModel.remove_eq_build built headers, Outcome.map_eq_ok_iff] at cleared
      obtain ⟨changed, rebuilt, rfl⟩ := cleared
      have before := (ClusterModel.build_eq_ok_iff.1 built).2
      have after := (ClusterModel.build_eq_ok_iff.1 rebuilt).2
      simp only [Predictor.mistakes, mistakeModel?, known, SortedMap.get?_insert, if_true,
        Option.map_some, Option.getD_some, before, after, ArrivalLog.count_withdrawAll_singleton]

/-- Whatever was asked before, headers that are filed in a mailbox on purpose are recorded as a
    mistake one time less, so they still are one if they were recorded more than once.  All other
    mistakes are recorded as often as before. -/
theorem run_add_clears_once (settings : Settings α) (kind : PredictorKind)
    (requests : List Request) {headers mailbox : Text} {next : Predictor α}
    (added : ((ofKind settings kind).run requests).add headers mailbox = .ok next) :
    (next.mistaken headers mailbox ↔
        2 ≤ (((ofKind settings kind).run requests).mistakes mailbox).count headers) ∧
      (next.mistakes mailbox).count headers =
        (((ofKind settings kind).run requests).mistakes mailbox).count headers - 1 ∧
      ∀ other ≠ headers, (next.mistakes mailbox).count other =
        (((ofKind settings kind).run requests).mistakes mailbox).count other := by
  have counted := ((madeOfArrivals_ofKind settings kind).run requests).count_mistakes_add added
  have own := counted headers
  rw [if_pos rfl] at own
  refine ⟨?_, own, fun other different => ?_⟩
  · rw [mistaken_iff, ← List.count_pos_iff, own]
    omega
  · rw [counted other, if_neg different.symm, Nat.sub_zero]

end Predictor

namespace Predictor

/-- Of two mistakes, the one that was recorded twice is filed on purpose. -/
theorem run_add_clears_once_of_two :
    ∃ (requests : List Request) (next : Predictor Rat),
      requests = [.consider "Ids".toList ["hello".toList], .mistake "spam".toList "Ids".toList,
        .mistake "spam".toList "Ids".toList, .mistake "eggs".toList "Ids".toList] ∧
      ((ofKind .standard .cluster).run requests).add "spam".toList "Ids".toList = .ok next ∧
      (next.mistakes "Ids".toList).count "spam".toList = 1 ∧
      (next.mistakes "Ids".toList).count "eggs".toList = 1 := by
  obtain ⟨requests, listed⟩ : ∃ requests : List Request,
      requests = [.consider "Ids".toList ["hello".toList], .mistake "spam".toList "Ids".toList,
        .mistake "spam".toList "Ids".toList, .mistake "eggs".toList "Ids".toList] :=
    ⟨_, rfl⟩
  have succeeds : (((ofKind .standard .cluster : Predictor Rat).run requests).add "spam".toList
      "Ids".toList).isOk := by
    rw [listed]
    decide +kernel
  have before : ((ofKind .standard .cluster : Predictor Rat).run requests).mistakes "Ids".toList =
      ["spam".toList, "spam".toList, "eggs".toList] := by
    rw [listed]
    decide +kernel
  obtain ⟨next, added⟩ := Outcome.isOk_iff.1 succeeds
  obtain ⟨-, own, others⟩ := run_add_clears_once .standard .cluster requests added
  rw [before] at own others
  exact ⟨requests, next, listed, added, own, others "eggs".toList (by decide)⟩

/-- Headers that were recorded as a mistake twice are filed on purpose, and still are a mistake. -/
theorem mistaken_after_add :
    ∃ (requests : List Request) (next : Predictor Rat),
      requests = [.consider "Ids".toList ["hello".toList], .mistake "spam".toList "Ids".toList,
        .mistake "spam".toList "Ids".toList, .mistake "eggs".toList "Ids".toList] ∧
      ((ofKind .standard .cluster).run requests).add "spam".toList "Ids".toList = .ok next ∧
      next.mistaken "spam".toList "Ids".toList := by
  obtain ⟨requests, listed⟩ : ∃ requests : List Request,
      requests = [.consider "Ids".toList ["hello".toList], .mistake "spam".toList "Ids".toList,
        .mistake "spam".toList "Ids".toList, .mistake "eggs".toList "Ids".toList] :=
    ⟨_, rfl⟩
  have left : (((ofKind .standard .cluster : Predictor Rat).run requests).add "spam".toList
      "Ids".toList).isOk ∧
      (((ofKind .standard .cluster : Predictor Rat).run requests).add "spam".toList
        "Ids".toList).toOption.any (·.mistaken "spam".toList "Ids".toList) := by
    rw [listed]
    decide +kernel
  obtain ⟨next, added⟩ := Outcome.isOk_iff.1 left.1
  rw [added] at left
  exact ⟨requests, next, listed, added, left.2⟩

end Predictor

end MailSort
