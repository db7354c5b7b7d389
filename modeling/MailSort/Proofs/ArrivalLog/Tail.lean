import MailSort.ArrivalLog
import Mathlib.Data.List.InsertIdx

/-! # Arrivals at the end

`ArrivalLog.acceptsAtTail` answers before anything is changed.  If it says that samples go to
the end, accepting them appends them in order, also those that undo a withdrawal.
-/

namespace MailSort

namespace ArrivalLog

variable {log : ArrivalLog} {sample : Text} {samples : List Text}

@[simp] theorem acceptAll_nil : log.acceptAll [] = log := rfl

@[simp] theorem acceptAll_cons :
    log.acceptAll (sample :: samples) = (log.accept sample).acceptAll samples := rfl

/-- The first of some samples that go to the end is appended, and the others go to the end
    after it. -/
theorem accept_of_tail (tail : log.acceptsAtTail (sample :: samples)) :
    (log.accept sample).samples = log.samples ++ [sample] ∧
      (log.accept sample).acceptsAtTail samples := by
  obtain ⟨held, withdrawals⟩ := log
  cases withdrawals with
  | nil => simp [accept, acceptsAtTail, appends]
  | cons last earlier =>
    simp only [acceptsAtTail, appends, accept] at tail ⊢
    split
    · next undone =>
      -- The sample returns to its old place, which is not before the end.
      simp only [if_pos undone, Bool.and_eq_true, decide_eq_true_eq] at tail
      rw [Nat.min_eq_right tail.1, List.insertIdx_length_self, List.length_append]
      exact ⟨rfl, tail.2⟩
    · exact ⟨rfl, by simp [appends]⟩

/-- Samples that go to the end are appended in order. -/
theorem samples_acceptAll_of_tail (tail : log.acceptsAtTail samples) :
    (log.acceptAll samples).samples = log.samples ++ samples := by
  induction samples generalizing log with
  | nil => simp
  | cons sample samples ih =>
    obtain ⟨appended, rest⟩ := accept_of_tail tail
    rw [acceptAll_cons, ih rest, appended, List.append_assoc, List.singleton_append]

end ArrivalLog

end MailSort
