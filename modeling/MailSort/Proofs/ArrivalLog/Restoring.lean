import MailSort.Proofs.ArrivalLog.Tail
import MailSort.Proofs.ArrivalLog.Withdrawal

/-! # Restoring withdrawn samples

The places in the withdrawals of a log are places in lists of different lengths: each of them is
one in the samples as they are when the later withdrawals have been undone.  In every log that
arrivals and withdrawals make, none of them lies behind the end of its list, and samples that
return in reverse order give back the log as it was.

A sample that returns to a place before the end is the last of its kind there, so what comes
after it is something else.  That is why the samples after some arrivals tell whether all of them
went to the end, also if samples repeat (`Reachable.acceptsAtTail_iff_appended`).
-/

namespace MailSort

namespace ArrivalLog

variable {log next : ArrivalLog} {sample : Text} {samples held : List Text}

inductive Reachable : ArrivalLog → Prop where
  | ofSamples (samples : List Text) : Reachable (ofSamples samples)
  | accept {log : ArrivalLog} (sample : Text) : Reachable log → Reachable (log.accept sample)
  | withdraw {log next : ArrivalLog} {sample : Text} :
      Reachable log → log.withdraw? sample = some next → Reachable next

theorem Reachable.restorable (reachable : log.Reachable) : log.Restorable := by
  induction reachable with
  | ofSamples samples => exact .settled samples
  | accept sample _ ih => exact ih.accept sample
  | withdraw _ out ih => exact ih.withdrawn out

/-! ## Places to return to -/

theorem acceptAll_append (log : ArrivalLog) (samples more : List Text) :
    log.acceptAll (samples ++ more) = (log.acceptAll samples).acceptAll more :=
  List.foldl_append

/-- Samples that are withdrawn one after the other undo this in reverse order. -/
theorem acceptAll_of_withdrawn (out : samples.foldlM withdraw? log = some next) :
    next.acceptAll samples.reverse = log := by
  induction samples generalizing log with
  | nil =>
    cases out
    rfl
  | cons sample samples ih =>
    rw [List.foldlM_cons] at out
    obtain ⟨first, once, rest⟩ := Option.bind_eq_some_iff.1 out
    calc next.acceptAll (sample :: samples).reverse
      _ = (next.acceptAll samples.reverse).accept sample := by
          rw [List.reverse_cons, acceptAll_append]
          rfl
      _ = first.accept sample := by rw [ih rest]
      _ = log := accept_of_withdraw? once

/-- The place of a withdrawal is one in the samples with all later withdrawals undone. -/
theorem Restorable.position_le (restorable : log.Restorable) {later : Nat}
    {withdrawal : Withdrawal} (remembered : log.withdrawals[later]? = some withdrawal) :
    withdrawal.position ≤ log.samples.length + later := by
  induction restorable generalizing later with
  | settled samples => simp [ArrivalLog.ofSamples] at remembered
  | @withdrawn before _ last _ out ih =>
    obtain ⟨⟨place, left⟩, taken, rfl⟩ := Option.map_eq_some_iff.1 out
    obtain ⟨inside, restored⟩ := insertIdx_of_takeLast? taken
    cases later with
    | zero =>
      cases remembered
      exact inside
    | succ later =>
      have longer : before.samples.length = left.length + 1 := by
        rw [← restored, List.length_insertIdx_of_le_length inside]
      have earlier := ih remembered
      rw [longer] at earlier
      show withdrawal.position ≤ left.length + (later + 1)
      omega

/-- In every log that arrivals and withdrawals make: samples that are withdrawn one after the
    other, and arrive again in reverse order, leave no trace; the place of each withdrawal is one
    in the samples with all later withdrawals undone; and the sample withdrawn last returns to
    just this place, which never has to be moved to the end. -/
theorem Reachable.restores_in_reverse (reachable : log.Reachable) :
    (∀ (samples : List Text) (next : ArrivalLog), samples.foldlM withdraw? log = some next →
      next.acceptAll samples.reverse = log) ∧
    (∀ (later : Nat) (withdrawal : Withdrawal), log.withdrawals[later]? = some withdrawal →
      withdrawal.position ≤ log.samples.length + later) ∧
    ∀ last earlier, log.withdrawals = last :: earlier →
      last.position ≤ log.samples.length ∧
      log.accept last.sample = ⟨log.samples.insertIdx last.position last.sample, earlier⟩ := by
  refine ⟨fun samples next => acceptAll_of_withdrawn, fun later withdrawal => ?places, ?_⟩
  case places => exact reachable.restorable.position_le
  intro last earlier remembered
  have first : log.withdrawals[0]? = some last := by rw [remembered, List.getElem?_cons_zero]
  have inside : last.position ≤ log.samples.length := reachable.restorable.position_le first
  refine ⟨inside, ?_⟩
  simp only [ArrivalLog.accept, remembered, if_pos, Nat.min_eq_left inside]

/-- The first of two equal samples stays when the second one is withdrawn, a later withdrawal is
    undone in between, and the place of the first withdrawal that is left lies behind the end. -/
theorem restores_in_reverse_nested :
    ∃ log next : ArrivalLog, log.Reachable ∧
      log = ⟨["a".toList, "b".toList], [⟨2, "c".toList⟩, ⟨2, "a".toList⟩]⟩ ∧
      ["a".toList, "b".toList].foldlM withdraw? log = some next ∧
      next.acceptAll ["b".toList, "a".toList] = log ∧
      2 ≤ log.samples.length + 1 ∧
      log.accept "c".toList =
        ⟨["a".toList, "b".toList, "c".toList], [⟨2, "a".toList⟩]⟩ := by
  have first : (ofSamples ["a".toList, "b".toList, "a".toList, "c".toList]).withdraw? "a".toList =
      some ⟨["a".toList, "b".toList, "c".toList], [⟨2, "a".toList⟩]⟩ := by decide
  have second : ArrivalLog.withdraw? ⟨["a".toList, "b".toList, "c".toList], [⟨2, "a".toList⟩]⟩
      "b".toList = some ⟨["a".toList, "c".toList], [⟨1, "b".toList⟩, ⟨2, "a".toList⟩]⟩ := by decide
  have third : (ArrivalLog.accept ⟨["a".toList, "c".toList], [⟨1, "b".toList⟩, ⟨2, "a".toList⟩]⟩
      "b".toList).withdraw? "c".toList =
        some ⟨["a".toList, "b".toList], [⟨2, "c".toList⟩, ⟨2, "a".toList⟩]⟩ := by decide
  have reachable := (((Reachable.ofSamples _).withdraw first).withdraw second).accept "b".toList
    |>.withdraw third
  have out : ["a".toList, "b".toList].foldlM withdraw?
      ⟨["a".toList, "b".toList], [⟨2, "c".toList⟩, ⟨2, "a".toList⟩]⟩ = some
        ⟨[], [⟨0, "b".toList⟩, ⟨0, "a".toList⟩, ⟨2, "c".toList⟩, ⟨2, "a".toList⟩]⟩ := by decide
  obtain ⟨restores, places, returns⟩ := reachable.restores_in_reverse
  exact ⟨_, _, reachable, rfl, out, restores _ _ out, places 1 _ rfl, (returns _ _ rfl).2⟩

/-! ## Arrivals at the end -/

/-- A sample that is the last one after its arrival has been appended. -/
theorem Restorable.samples_of_accept (restorable : log.Restorable)
    (appended : (log.accept sample).samples = held ++ [sample]) : log.samples = held := by
  obtain ⟨back, out, same⟩ := restorable.exists_withdraw?_accept sample
  rw [withdraw?, appended, takeLast?_concat] at out
  cases out
  exact same.symm

/-- What samples leave in front of them at the end was there before they arrived. -/
theorem Restorable.samples_of_acceptAll (restorable : log.Restorable)
    (appended : (log.acceptAll samples).samples = held ++ samples) : log.samples = held := by
  induction samples generalizing log held with
  | nil => rwa [List.append_nil] at appended
  | cons sample samples ih =>
    rw [List.append_cons] at appended
    exact restorable.samples_of_accept (ih (restorable.accept sample) appended)

/-- The converse of `accept_of_tail`. -/
theorem Restorable.tail_of_accept (restorable : log.Restorable)
    (appended : (log.accept sample).samples = log.samples ++ [sample])
    (rest : (log.accept sample).acceptsAtTail samples) : log.acceptsAtTail (sample :: samples) := by
  cases restorable with
  | settled held => rfl
  | @withdrawn before _ last _ out =>
    obtain ⟨⟨place, left⟩, taken, rfl⟩ := Option.map_eq_some_iff.1 out
    by_cases undone : last = sample
    · subst undone
      rw [accept_of_withdraw? out] at appended rest
      replace appended : before.samples = left ++ [last] := appended
      -- The sample was the last one of all before it was withdrawn, so its place is the end.
      rw [appended, takeLast?_concat] at taken
      obtain ⟨rfl, -⟩ := Prod.mk.inj (Option.some.inj taken)
      rw [acceptsAtTail, appended, List.length_append] at rest
      simpa [acceptsAtTail, appends] using rest
    · simp [acceptsAtTail, appends, undone]

theorem Restorable.tail_of_acceptAll (restorable : log.Restorable)
    (appended : (log.acceptAll samples).samples = log.samples ++ samples) :
    log.acceptsAtTail samples := by
  induction samples generalizing log with
  | nil => simp [acceptsAtTail, appends]
  | cons sample samples ih =>
    have further := restorable.accept sample
    rw [List.append_cons, acceptAll_cons] at appended
    have once := further.samples_of_acceptAll appended
    rw [← once] at appended
    exact restorable.tail_of_accept once (ih further appended)

/-- Whether samples go to the end of a log is answered exactly: it is so if and only if accepting
    them appends them in order. -/
theorem Reachable.acceptsAtTail_iff_appended (reachable : log.Reachable) (samples : List Text) :
    log.acceptsAtTail samples ↔ (log.acceptAll samples).samples = log.samples ++ samples :=
  ⟨samples_acceptAll_of_tail, reachable.restorable.tail_of_acceptAll⟩

/-- The first of two equal samples returns to its place in front of the other sample, although
    the second one returns to the end. -/
theorem acceptsAtTail_iff_appended_of_repeated :
    ∃ log : ArrivalLog, log.Reachable ∧
      log = ⟨["b".toList], [⟨0, "a".toList⟩, ⟨2, "a".toList⟩]⟩ ∧
      (log.acceptsAtTail ["a".toList, "a".toList] ↔
        (log.acceptAll ["a".toList, "a".toList]).samples =
          ["b".toList, "a".toList, "a".toList]) ∧
      log.acceptsAtTail ["a".toList, "a".toList] = false ∧
      (log.acceptsAtTail ["c".toList, "a".toList] ↔
        (log.acceptAll ["c".toList, "a".toList]).samples =
          ["b".toList, "c".toList, "a".toList]) ∧
      log.acceptsAtTail ["c".toList, "a".toList] := by
  have first : (ofSamples ["a".toList, "b".toList, "a".toList]).withdraw? "a".toList =
      some ⟨["a".toList, "b".toList], [⟨2, "a".toList⟩]⟩ := by decide
  have second : ArrivalLog.withdraw? ⟨["a".toList, "b".toList], [⟨2, "a".toList⟩]⟩ "a".toList =
      some ⟨["b".toList], [⟨0, "a".toList⟩, ⟨2, "a".toList⟩]⟩ := by decide
  have reachable := ((Reachable.ofSamples _).withdraw first).withdraw second
  exact ⟨_, reachable, rfl, reachable.acceptsAtTail_iff_appended _, by decide,
    reachable.acceptsAtTail_iff_appended _, by decide⟩

end ArrivalLog

end MailSort
