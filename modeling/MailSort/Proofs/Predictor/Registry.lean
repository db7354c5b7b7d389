import MailSort.Predictor.Registry
import MailSort.Proofs.ArrivalLog.Withdrawal
import MailSort.Proofs.Outcome
import MailSort.Proofs.SortedMap

/-! # Registries and arrivals

What is held for a mailbox is made from a log of arrivals, whatever kind of model it is.  An
update of the model then stands for a step of the log (`Registry.Tracks`), and what follows from
the steps of logs follows for all kinds of models at once.
-/

namespace MailSort

namespace Registry

variable {μ : Type} {registry next : Registry μ} {mailbox : Text} {held : μ}
  {change : μ → Except Fault μ}

theorem update_of_known (known : registry.get? mailbox = some held) :
    registry.update mailbox change = (change held).map (registry.insert mailbox) := by
  rw [update, find, known]
  cases outcome : change held <;> simp [bind, Except.bind, pure, Except.pure, Except.map, outcome]

/-- An update of what was put in a moment ago. -/
theorem update_insert (registry : Registry μ) (mailbox : Text) (held : μ)
    (change : μ → Except Fault μ) :
    Registry.update (registry.insert mailbox held) mailbox change =
      (change held).map (registry.insert mailbox) := by
  have found : (registry.insert mailbox held).get? mailbox = some held := by
    rw [SortedMap.get?_insert, if_pos rfl]
  rw [update_of_known found]
  congr 1
  funext other
  exact SortedMap.insert_insert registry mailbox held other

theorem update_of_unknown (unknown : registry.get? mailbox = none) :
    registry.update mailbox change = .error (.unknownMailbox mailbox) := by
  rw [update, find, unknown]
  rfl

theorem update_eq_ok_iff :
    registry.update mailbox change = .ok next ↔ ∃ held changed, registry.get? mailbox = some held ∧
      change held = .ok changed ∧ registry.insert mailbox changed = next := by
  cases known : registry.get? mailbox with
  | none => simp [update_of_unknown known]
  | some held => simp [update_of_known known, Outcome.map_eq_ok_iff]

/-! ## Arrivals -/

variable {build : ArrivalLog → Except Fault μ} {step : ArrivalLog → ArrivalLog}
  {log : ArrivalLog}

/-- A change of what was made from arrivals comes to the same as a step of the arrivals. -/
def Tracks (build : ArrivalLog → Except Fault μ) (change : μ → Except Fault μ)
    (step : ArrivalLog → ArrivalLog) : Prop :=
  ∀ ⦃log : ArrivalLog⦄ ⦃held : μ⦄, build log = .ok held → change held = build (step log)

/-- All that is held was made from arrivals whose withdrawals can be undone. -/
def MadeBy (build : ArrivalLog → Except Fault μ) (registry : Registry μ) : Prop :=
  ∀ ⦃mailbox : Text⦄ ⦃held : μ⦄, registry.get? mailbox = some held →
    ∃ log : ArrivalLog, log.Restorable ∧ build log = .ok held

theorem madeBy_empty : MadeBy build .empty := by
  intro mailbox held known
  contradiction

theorem MadeBy.insert (made : MadeBy build registry) (restorable : log.Restorable)
    (built : build log = .ok held) (mailbox : Text) :
    MadeBy build (registry.insert mailbox held) := by
  intro other found known
  rw [SortedMap.get?_insert] at known
  split at known
  · obtain rfl := Option.some.inj known
    exact ⟨log, restorable, built⟩
  · exact made known

theorem MadeBy.update (made : MadeBy build registry) (tracks : Tracks build change step)
    (keeps : ∀ {log : ArrivalLog}, log.Restorable → (step log).Restorable)
    (updated : registry.update mailbox change = .ok next) : MadeBy build next := by
  obtain ⟨held, changed, known, done, rfl⟩ := update_eq_ok_iff.1 updated
  obtain ⟨log, restorable, built⟩ := made known
  rw [tracks built] at done
  exact made.insert (keeps restorable) done mailbox

/-- What has become of a registry of which one mailbox was asked for: whether the mailbox has been
    registered, and what is held now. -/
inductive Revised (build : ArrivalLog → Except Fault μ) (mailbox : Text) (registry : Registry μ) :
    Bool → Registry μ → Prop where
  | same : Revised build mailbox registry false registry
  | insert {headers : List Text} {held : μ} (built : build (.ofSamples headers) = .ok held) :
    Revised build mailbox registry true (registry.insert mailbox held)
  | update {change : μ → Except Fault μ} {step : ArrivalLog → ArrivalLog} {next : Registry μ}
    (tracks : Tracks build change step)
    (keeps : ∀ {log : ArrivalLog}, log.Restorable → (step log).Restorable)
    (updated : registry.update mailbox change = .ok next) :
    Revised build mailbox registry false next

theorem Revised.madeBy {registers : Bool} (revised : Revised build mailbox registry registers next)
    (made : MadeBy build registry) : MadeBy build next := by
  cases revised with
  | same => exact made
  | insert built => exact made.insert (.settled _) built mailbox
  | update tracks keeps updated => exact made.update tracks keeps updated

/-- Of two updates, only what has become of the arrivals is left. -/
theorem update_of_update {change' : μ → Except Fault μ} {step' : ArrivalLog → ArrivalLog}
    (tracks : Tracks build change step) (tracks' : Tracks build change' step')
    (known : registry.get? mailbox = some held) (built : build log = .ok held)
    (updated : registry.update mailbox change = .ok next) :
    next.update mailbox change' = (build (step' (step log))).map (registry.insert mailbox) := by
  rw [update_of_known known, tracks built, Outcome.map_eq_ok_iff] at updated
  obtain ⟨changed, done, rfl⟩ := updated
  rw [update_insert, tracks' done]

end Registry

end MailSort
