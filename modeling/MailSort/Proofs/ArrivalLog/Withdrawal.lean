import MailSort.ArrivalLog
import Mathlib.Data.List.InsertIdx

/-! # Withdrawals that can be undone

A withdrawal takes out the last occurrence of a sample, and the same sample undoes it.  As any
other sample makes a log forget its withdrawals, each withdrawal that a log still remembers left
the samples just as they are without the later ones (`ArrivalLog.Restorable`).  That is why a
sample that returns to its old place is the last of its kind again, and is the one that the next
withdrawal takes out.
-/

namespace MailSort

namespace ArrivalLog

variable {log next : ArrivalLog} {sample : Text} {samples rest : List Text} {position : Nat}

theorem insertIdx_of_takeLast? (taken : takeLast? sample samples = some (position, rest)) :
    position ≤ rest.length ∧ rest.insertIdx position sample = samples := by
  induction samples generalizing position rest with
  | nil => contradiction
  | cons first others ih =>
    rw [takeLast?] at taken
    cases later : takeLast? sample others with
    | some found =>
      obtain ⟨place, left⟩ := found
      rw [later] at taken
      cases taken
      obtain ⟨inside, restored⟩ := ih later
      exact ⟨Nat.succ_le_succ inside, by rw [List.insertIdx_succ_cons, restored]⟩
    | none =>
      simp only [later] at taken
      split at taken
      · next same =>
        cases taken
        exact ⟨Nat.zero_le _, by rw [List.insertIdx_zero, same]⟩
      · contradiction

theorem takeLast?_concat (sample : Text) (samples : List Text) :
    takeLast? sample (samples ++ [sample]) = some (samples.length, samples) := by
  induction samples with
  | nil => simp [takeLast?]
  | cons first others ih => simp [takeLast?, ih]

theorem isSome_takeLast? : (takeLast? sample samples).isSome ↔ sample ∈ samples := by
  induction samples with
  | nil => simp [takeLast?]
  | cons first others ih =>
    rw [takeLast?]
    cases later : takeLast? sample others with
    | some found =>
      have member : sample ∈ others := ih.1 (by rw [later]; rfl)
      simp [member]
    | none =>
      have absent : sample ∉ others := fun member => by simpa [later] using ih.2 member
      by_cases same : first = sample
      · simp [same]
      · simp [same, absent, Ne.symm same]

theorem contains_iff : log.contains sample ↔ sample ∈ log.samples := by
  simp [contains]

theorem isSome_withdraw? : (log.withdraw? sample).isSome ↔ sample ∈ log.samples := by
  rw [withdraw?, Option.isSome_map, isSome_takeLast?]

theorem exists_withdraw? (member : sample ∈ log.samples) : ∃ next, log.withdraw? sample = some next :=
  Option.isSome_iff_exists.1 (isSome_withdraw?.2 member)

theorem withdraw?_eq_none (absent : sample ∉ log.samples) : log.withdraw? sample = none := by
  rw [← Option.not_isSome_iff_eq_none, isSome_withdraw?]
  exact absent

theorem withdrawAll_eq_self (absent : ∀ sample ∈ samples, sample ∉ log.samples) :
    log.withdrawAll samples = log := by
  induction samples with
  | nil => rfl
  | cons sample samples ih =>
    have missing := withdraw?_eq_none (absent sample List.mem_cons_self)
    rw [withdrawAll, List.foldl_cons, missing]
    exact ih fun other member => absent other (List.mem_cons_of_mem _ member)

/-- The sample that was withdrawn last undoes the withdrawal. -/
theorem accept_of_withdraw? (out : log.withdraw? sample = some next) : next.accept sample = log := by
  obtain ⟨⟨place, left⟩, taken, rfl⟩ := Option.map_eq_some_iff.1 out
  obtain ⟨inside, restored⟩ := insertIdx_of_takeLast? taken
  simp only [accept, if_pos, Nat.min_eq_left inside, restored]

/-! ## Logs that can be restored -/

/-- Every withdrawal that the log remembers can be undone, the last one first. -/
inductive Restorable : ArrivalLog → Prop
  | settled (samples : List Text) : Restorable (ofSamples samples)
  | withdrawn {log next : ArrivalLog} {sample : Text} (restorable : Restorable log)
      (out : log.withdraw? sample = some next) : Restorable next

theorem Restorable.accept (restorable : log.Restorable) (sample : Text) :
    (log.accept sample).Restorable := by
  cases restorable with
  | settled samples => exact .settled _
  | @withdrawn earlier _ last restorable out =>
    by_cases same : last = sample
    · subst same
      rwa [accept_of_withdraw? out]
    · obtain ⟨⟨place, left⟩, _, rfl⟩ := Option.map_eq_some_iff.1 out
      simp only [ArrivalLog.accept, if_neg same]
      exact .settled _

theorem Restorable.withdrawAll (restorable : log.Restorable) (samples : List Text) :
    (log.withdrawAll samples).Restorable := by
  induction samples generalizing log with
  | nil => exact restorable
  | cons sample samples ih =>
    rw [ArrivalLog.withdrawAll, List.foldl_cons]
    cases out : log.withdraw? sample with
    | none => exact ih restorable
    | some next => exact ih (restorable.withdrawn out)

/-- The sample that arrived last is the one that a withdrawal takes out again. -/
theorem Restorable.exists_withdraw?_accept (restorable : log.Restorable) (sample : Text) :
    ∃ back, (log.accept sample).withdraw? sample = some back ∧ back.samples = log.samples := by
  have appended (samples : List Text) :
      (⟨samples ++ [sample], []⟩ : ArrivalLog).withdraw? sample =
        some ⟨samples, [⟨samples.length, sample⟩]⟩ := by
    simp [withdraw?, takeLast?_concat]
  cases restorable with
  | settled samples => exact ⟨_, appended samples, rfl⟩
  | @withdrawn earlier _ last restorable out =>
    by_cases same : last = sample
    · subst same
      rw [accept_of_withdraw? out]
      exact ⟨log, out, rfl⟩
    · obtain ⟨⟨place, left⟩, _, rfl⟩ := Option.map_eq_some_iff.1 out
      simp only [ArrivalLog.accept, if_neg same]
      exact ⟨_, appended left, rfl⟩

end ArrivalLog

end MailSort
