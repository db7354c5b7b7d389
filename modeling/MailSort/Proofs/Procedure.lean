import MailSort.Fault
import MailSort.Proofs.Outcome

/-! # Procedures

Models are large, so they are updated where they are: a part at a time, and what has been written
stays written when something fails later.  A `Procedure` is a computation of that kind.  It
performs an update if its writes come to what the update says, and if it has none of them behind
it when it fails (`Procedure.Performs`).
-/

namespace MailSort

/-- Steps that change a state and may fail.  What they wrote before a failure stays. -/
abbrev Procedure (σ β : Type) := ExceptT Fault (StateM σ) β

namespace Procedure

variable {σ τ β γ : Type}

def on (procedure : Procedure σ β) (state : σ) : Except Fault β × σ :=
  (procedure.run.run state).run

@[simp] theorem on_pure (value : β) (state : σ) :
    (pure value : Procedure σ β).on state = (.ok value, state) :=
  rfl

@[simp] theorem on_throw (fault : Fault) (state : σ) :
    (throw fault : Procedure σ β).on state = (.error fault, state) :=
  rfl

@[simp] theorem on_get (state : σ) : (get : Procedure σ σ).on state = (.ok state, state) :=
  rfl

@[simp] theorem on_set (next state : σ) :
    (set next : Procedure σ Unit).on state = (.ok (), next) :=
  rfl

@[simp] theorem on_modify (change : σ → σ) (state : σ) :
    (modify change : Procedure σ Unit).on state = (.ok (), change state) :=
  rfl

theorem on_bind (first : Procedure σ β) (next : β → Procedure σ γ) (state : σ) :
    (first >>= next).on state =
      match first.on state with
      | (.ok value, after) => (next value).on after
      | (.error fault, after) => (.error fault, after) := by
  rw [on, on, ExceptT.run_bind, StateT.run_bind]
  rcases first.run.run state with ⟨_ | value, after⟩ <;> rfl

def attempt (outcome : Except Fault β) : Procedure σ β :=
  match outcome with
  | .ok value => pure value
  | .error fault => throw fault

@[simp] theorem on_attempt (outcome : Except Fault β) (state : σ) :
    (attempt outcome).on state = (outcome, state) := by
  cases outcome <;> rfl

/-- What a procedure makes of a copy, which is lost if the procedure fails. -/
def onCopy (procedure : Procedure σ Unit) (copy : σ) : Except Fault σ :=
  (procedure.on copy).1.map fun _ => (procedure.on copy).2

/-- Runs a procedure in a part of the state.  What it writes there is written to the whole state,
    whether it fails or not. -/
def inPart (part : τ) (whole : τ → σ) (procedure : Procedure τ Unit) : Procedure σ Unit := do
  let (outcome, changed) := procedure.on part
  set (whole changed)
  attempt outcome

/-! ## All or nothing -/

def settle (outcome : Except Fault σ) (state : σ) : Except Fault Unit × σ :=
  (outcome.map fun _ => (), outcome.toOption.getD state)

@[simp] theorem settle_ok (next state : σ) : settle (.ok next) state = (.ok (), next) :=
  rfl

@[simp] theorem settle_error (fault : Fault) (state : σ) :
    settle (.error fault) state = (.error fault, state) :=
  rfl

/-- A procedure that has what an update says behind it when it is done, and nothing when it
    fails. -/
def Performs (procedure : Procedure σ Unit) (update : σ → Except Fault σ) : Prop :=
  ∀ state, procedure.on state = settle (update state) state

def LeavesNoTrace (procedure : Procedure σ Unit) : Prop :=
  ∀ ⦃state fault⦄, (procedure.on state).1 = .error fault → (procedure.on state).2 = state

variable {procedure : Procedure σ Unit} {update : σ → Except Fault σ}

theorem Performs.leavesNoTrace (performs : procedure.Performs update) :
    procedure.LeavesNoTrace := by
  intro state fault failed
  rw [performs state] at failed ⊢
  cases outcome : update state with
  | ok next =>
    rw [outcome] at failed
    contradiction
  | error other => rfl

theorem Performs.onCopy_eq (performs : procedure.Performs update) (copy : σ) :
    procedure.onCopy copy = update copy := by
  rw [onCopy, performs copy]
  cases update copy <;> rfl

theorem Performs.on_inPart (performs : procedure.Performs update) {part : σ} {whole : σ → τ}
    {state : τ} (same : whole part = state) :
    (inPart part whole procedure).on state = settle ((update part).map whole) state := by
  rw [inPart, performs part]
  cases update part with
  | ok next => rfl
  | error fault => exact Prod.ext rfl same

/-! ## One after the other -/

/-- Steps for some inputs stop at the first one that fails, and leave what those before it led
    to. -/
def StopsAtFailure (steps : List β → Procedure σ Unit) (step : β → Procedure σ Unit) : Prop :=
  ∀ ⦃inputs state fault⦄, ((steps inputs).on state).1 = .error fault →
    ∃ before input after, inputs = before ++ input :: after ∧
      (steps before).on state = (.ok (), ((steps inputs).on state).2) ∧
      ((step input).on ((steps inputs).on state).2).1 = .error fault

theorem stopsAtFailure_forM {step : β → Procedure σ Unit}
    (noTrace : ∀ input, (step input).LeavesNoTrace) : StopsAtFailure (List.forM · step) step := by
  intro inputs state fault failed
  dsimp only at failed ⊢
  induction inputs generalizing state with
  | nil => cases failed
  | cons first rest ih =>
    rw [List.forM, on_bind] at failed ⊢
    rcases outcome : (step first).on state with ⟨cause | _, next⟩
    · rw [outcome] at failed
      cases failed
      have same : ((step first).on state).2 = state := noTrace first (by rw [outcome])
      rw [outcome] at same
      subst same
      exact ⟨[], first, rest, rfl, rfl, by rw [outcome]⟩
    · rw [outcome] at failed
      obtain ⟨before, input, after, rfl, done, stopped⟩ := ih failed
      refine ⟨first :: before, input, after, rfl, ?_, stopped⟩
      rw [List.forM, on_bind, outcome]
      exact done

end Procedure

end MailSort
