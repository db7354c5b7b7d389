import MailSort.Proofs.Alignment.Reach

/-! # Where two searches meet

Two frontiers hold the furthest points from both corners of the grid.  They touch on some diagonal
as soon as the steps of both sides make up a path between the texts (`Frontier.exists_touch`).  If
no path is shorter, the point that one of them holds there lies on a shortest path
(`Frontier.splits_of_touch`), and so does the point at which its run begins.

So the sides take turns for as long as every path has more steps than both of them have taken, and
when they meet, the texts are cut in two with half of the changes on either side
(`Frontier.exists_split?`).
-/

namespace MailSort

namespace Frontier

open Text (Within Apart)

variable {first second : Text} {column row before after : Nat}

/-- A point of the grid, with no more than so many changes before it and behind it. -/
structure Splits (first second : Text) (column row before after : Nat) : Prop where
  column_le : column ≤ first.length
  row_le : row ≤ second.length
  before : Within before (first.take column) (second.take row)
  after : Within after (first.drop column) (second.drop row)

namespace Splits

/-- Seen from the other corner, what is before a point is behind it. -/
theorem reverse (splits : Splits first.reverse second.reverse column row before after) :
    Splits first second (first.length - column) (second.length - row) after before := by
  refine ⟨Nat.sub_le _ _, Nat.sub_le _ _, ?_, ?_⟩
  · simpa [List.drop_reverse] using splits.after.reverse
  · simpa [List.take_reverse] using splits.before.reverse

end Splits

/-- A path that leads too far would make the texts closer to each other than they are. -/
theorem Reaches.length_le (reached : Reaches first second (before + 1) column row)
    (apart : Apart (before + after) first second) :
    column + row + after ≤ first.length + second.length := by
  obtain ⟨shared, inFirst, inSecond, long⟩ := reached
  have all := apart.length_le (inFirst.trans (List.take_sublist column first))
    (inSecond.trans (List.take_sublist row second))
  omega

/-! ## The run on which they meet -/

section Touch

variable {frontier opposite : Frontier} {runs : Array Run} {run : Run} {i j furthest : Nat}

/-- Diagonal number `i` of one side, after so many rounds, is number `j` of the other side. -/
abbrev SameDiagonal (first second : Text) (rounds rounds' i j : Nat) : Prop :=
  first.length + 2 * i + 2 * j + 2 = second.length + rounds + rounds'

/-- If the frontiers touch on a diagonal, and the texts are not closer to each other than the steps
    of both sides, the point that the one side has reached lies on a shortest path. -/
theorem splits_of_touch (reached : Reaches first second (before + 1) column row)
    (onDiagonal : OnDiagonal (before + 1) i column row)
    (isFarthest : IsFarthest first.reverse second.reverse (after + 1) j furthest)
    (same : SameDiagonal first second (before + 1) (after + 1) i j)
    (touch : first.length ≤ column + furthest) (apart : Apart (before + after) first second) :
    Splits first second column row before after := by
  obtain ⟨row', onDiagonal', reached'⟩ := isFarthest.reached
  -- The point cannot lie outside the grid, as the other side could not be so far yet.
  have inside : column ≤ first.length ∧ row ≤ second.length := by
    have length := reached.length_le apart
    have near := reached'.near
    omega
  have back : Reaches first.reverse second.reverse (after + 1) (first.length - column)
      (second.length - row) := by
    have excess : furthest = first.length - column + (column + furthest - first.length) := by omega
    have excess' : row' = second.length - row + (column + furthest - first.length) := by omega
    rw [excess, excess'] at reached'
    exact reached'.back
  refine ⟨inside.1, inside.2, (reaches_iff_within inside.1 inside.2).1 reached, ?_⟩
  have behind := ((reaches_iff_within (by simp) (by simp)).1 back).reverse
  rwa [List.take_reverse, List.take_reverse, List.reverse_reverse, List.reverse_reverse,
    Nat.sub_sub_self inside.1, Nat.sub_sub_self inside.2] at behind

/-- With the point at which a run stops, the one at which it begins lies on a shortest path. -/
theorem IsRun.splits_start (isRun : IsRun first second (before + 1) i run)
    (splits : Splits first second run.stop (run.row + run.length) before after) :
    Splits first second run.column run.row before after := by
  have column_le := Nat.le_trans (Nat.le_add_right run.column run.length) splits.column_le
  have row_le := Nat.le_trans (Nat.le_add_right run.row run.length) splits.row_le
  obtain ⟨shared, length, ⟨rest, inFirst⟩, ⟨rest', inSecond⟩⟩ := isRun.alike
  refine ⟨column_le, row_le, (reaches_iff_within column_le row_le).1 isRun.reached, ?_⟩
  -- What is behind the start is the run and what is behind its end.
  have behind := splits.after
  rw [Run.stop, ← length, ← List.drop_drop, ← List.drop_drop, ← inFirst, ← inSecond,
    List.drop_left, List.drop_left] at behind
  rw [← inFirst, ← inSecond]
  exact behind.prepend shared

theorem reaches_of_within {start start' : Text} (near : Within before start start')
    (stop stop' : Text) :
    Reaches (start ++ stop) (start' ++ stop') (before + 1) start.length start'.length := by
  refine (reaches_iff_within (by simp) (by simp)).2 ?_
  rwa [List.take_left, List.take_left]

/-- Frontiers with steps enough for a path between the texts touch. -/
theorem exists_touch (forward : Holds first second frontier)
    (backward : Holds first.reverse second.reverse opposite)
    (size : frontier.size = before + 1) (size' : opposite.size = after + 1)
    (within : Within (before + after) first second) (apart : Apart (before + after) first second) :
    ∃ i j column furthest, frontier[i]? = some column ∧ opposite[j]? = some furthest ∧
      SameDiagonal first second frontier.size opposite.size i j ∧
      first.length ≤ column + furthest := by
  obtain ⟨start, stop, start', stop', rfl, rfl, near, near'⟩ := within.exists_cut
  have reached := reaches_of_within near stop stop'
  have reached' := reaches_of_within near'.reverse start.reverse start'.reverse
  rw [← List.reverse_append, ← List.reverse_append, List.length_reverse, List.length_reverse]
    at reached'
  rw [← size] at reached
  rw [← size'] at reached'
  -- Both parts leave out as many characters as they may, which tells their diagonals.
  obtain ⟨shared, shares⟩ := near
  obtain ⟨shared', shares'⟩ := near'
  have short := shares.sublist_second.length_le
  have short' := shares'.sublist_second.length_le
  have long := shares.length_le
  have long' := shares'.length_le
  have all := apart.length_le (shares.sublist_first.append shares'.sublist_first)
    (shares.sublist_second.append shares'.sublist_second)
  simp only [List.length_append] at all
  obtain ⟨column, there, beyond⟩ :=
    forward.exists_le (i := start'.length - shared.length) (by omega) reached
  obtain ⟨furthest, there', beyond'⟩ :=
    backward.exists_le (i := stop'.length - shared'.length) (by omega) reached'
  refine ⟨_, _, column, furthest, there, there', ?_, ?_⟩
  · simp only [SameDiagonal, List.length_append]
    omega
  · rw [List.length_append]
    omega

/-! ## Looking for it -/

theorem column?_eq_some_iff {k : Int} :
    opposite.column? k = some furthest ↔
      ∃ j : Nat, opposite[j]? = some furthest ∧ k = opposite.size - 1 - 2 * j := by
  simp only [column?]
  constructor
  · intro there
    split at there
    · contradiction
    · exact ⟨_, there, by omega⟩
  · rintro ⟨j, there, rfl⟩
    have number : ((opposite.size - 1 - (opposite.size - 1 - 2 * j) : Int) / 2).toNat = j := by
      omega
    rw [if_neg (by omega), number, there]

/-- A run that is found touches the point that the other side has reached on its diagonal. -/
theorem touch_of_meeting?
    (met : meeting? first.length (first.length - second.length) opposite runs = some run) :
    ∃ i j furthest, runs[i]? = some run ∧ opposite[j]? = some furthest ∧
      SameDiagonal first second runs.size opposite.size i j ∧
      first.length ≤ run.stop + furthest := by
  obtain ⟨i, -, found⟩ := List.exists_of_findSome?_eq_some met
  split at found
  · next other furthest there there' =>
    rw [Option.ite_none_right_eq_some] at found
    obtain ⟨touch, same⟩ := found
    cases same
    obtain ⟨j, there', diagonal⟩ := column?_eq_some_iff.1 there'
    exact ⟨i, j, furthest, there, there', by omega, touch⟩
  · contradiction

/-- Every run that touches such a point is found, if no other one is. -/
theorem meeting?_ne_none (there : runs[i]? = some run) (there' : opposite[j]? = some furthest)
    (same : SameDiagonal first second runs.size opposite.size i j)
    (touch : first.length ≤ run.stop + furthest) :
    meeting? first.length (first.length - second.length) opposite runs ≠ none := by
  intro unmet
  obtain ⟨inside, -⟩ := Array.getElem?_eq_some_iff.1 there
  have passed := List.findSome?_eq_none_iff.1 unmet i (List.mem_range.2 inside)
  have there' : opposite.column? (first.length - second.length - (runs.size - 1 - 2 * i)) =
      some furthest := column?_eq_some_iff.2 ⟨j, there', by omega⟩
  rw [there, there'] at passed
  simp [touch] at passed

/-- The ends of the run on which the next round meets the other side lie on a shortest path. -/
theorem splits_of_meeting? (forward : Holds first second frontier)
    (backward : Holds first.reverse second.reverse opposite)
    (apart : Apart (frontier.size + (opposite.size - 1)) first second)
    (met : meeting? first.length (first.length - second.length) opposite
      (frontier.nextRuns first.toArray second.toArray) = some run) :
    Splits first second run.column run.row frontier.size (opposite.size - 1) ∧
      Splits first second run.stop (run.row + run.length) frontier.size (opposite.size - 1) := by
  obtain ⟨i, j, furthest, there, there', same, touch⟩ := touch_of_meeting? met
  have isRun := forward.isRun there
  have isFarthest := backward j furthest there'
  obtain ⟨inside, -⟩ := Array.getElem?_eq_some_iff.1 there'
  have size : opposite.size = opposite.size - 1 + 1 := by omega
  rw [size_nextRuns, size] at same
  rw [size] at isFarthest
  have stop := splits_of_touch isRun.stop_reached isRun.stop_onDiagonal isFarthest same touch apart
  exact ⟨isRun.splits_start stop, stop⟩

/-- If the next round does not meet the other side, a path between the texts has more steps than
    both sides have taken. -/
theorem apart_of_meeting?_eq_none (forward : Holds first second frontier)
    (backward : Holds first.reverse second.reverse opposite)
    (turns : frontier.size ≤ opposite.size)
    (apart : Apart (frontier.size + (opposite.size - 1)) first second)
    (unmet : meeting? first.length (first.length - second.length) opposite
      (frontier.nextRuns first.toArray second.toArray) = none) :
    Apart (frontier.size + opposite.size) first second := by
  cases size : opposite.size with
  | zero =>
    have none : frontier.size = 0 := by omega
    rw [none]
    exact .zero first second
  | succ after =>
    rw [size, Nat.add_sub_cancel] at apart
    refine apart.succ fun within => ?_
    obtain ⟨i, j, column, furthest, there, there', same, touch⟩ :=
      exists_touch forward.next backward (by simp) size within apart
    rw [Array.getElem?_map, Option.map_eq_some_iff] at there
    obtain ⟨run, there, rfl⟩ := there
    rw [Array.size_map] at same
    exact meeting?_ne_none there there' same touch unmet

end Touch

/-! ## Taking turns -/

/-- A point of a shortest path with half of its steps on either side, one more before it if their
    number is odd. -/
def Halves (first second : Text) (column row : Nat) : Prop :=
  ∃ before after, Splits first second column row before after ∧
    Apart (before + after) first second ∧ after ≤ before ∧ before ≤ after + 1

theorem Halves.inside (halves : Halves first second column row) :
    column ≤ first.length ∧ row ≤ second.length := by
  obtain ⟨before, after, splits, -⟩ := halves
  exact ⟨splits.column_le, splits.row_le⟩

/-- Half of two changes or more is at least one, so there is something on both sides. -/
theorem Halves.proper (halves : Halves first second column row) (apart : Apart 2 first second) :
    0 < column + row ∧ column + row < first.length + second.length := by
  obtain ⟨before, after, splits, together, less, less'⟩ := halves
  have column_le := splits.column_le
  have row_le := splits.row_le
  constructor
  · by_contra none
    obtain ⟨rfl, rfl⟩ : column = 0 ∧ row = 0 := by omega
    have changes := apart after splits.after
    have all := together after splits.after
    omega
  · by_contra everything
    obtain ⟨rfl, rfl⟩ : column = first.length ∧ row = second.length := by omega
    have within := splits.before
    rw [List.take_length, List.take_length] at within
    have changes := apart before within
    have all := together before within
    omega

/-- The search ends at such a point, as long as there are rounds enough for a path over both
    texts.  Each side takes its turn when no path is shorter than the steps so far. -/
theorem exists_meet? {forward backward : Frontier} {rounds : Nat}
    (holds : Holds first second forward) (holds' : Holds first.reverse second.reverse backward)
    (size : backward.size = forward.size)
    (apart : Apart (forward.size + (backward.size - 1)) first second)
    (enough : first.length + second.length + 2 ≤ 2 * (forward.size + rounds)) :
    ∃ column row, meet? first.toArray second.toArray first.reverse.toArray second.reverse.toArray
      rounds forward backward = some (column, row) ∧ Halves first second column row := by
  induction rounds generalizing forward backward with
  | zero =>
    have whole := apart _ (Text.within_length first second)
    omega
  | succ rounds ih =>
    simp only [meet?, List.size_toArray]
    split
    · next run met =>
      have splits := (splits_of_meeting? holds holds' apart met).1
      exact ⟨_, _, rfl, _, _, splits, apart, by omega, by omega⟩
    · next unmet =>
      -- The other side takes its turn: it starts from the other end of both texts.
      have apart := apart_of_meeting?_eq_none holds holds' (Nat.le_of_eq size.symm) apart unmet
      have next : Holds first.reverse.reverse second.reverse.reverse
          ((forward.nextRuns first.toArray second.toArray).map Run.stop) := by
        simpa only [List.reverse_reverse] using holds.next
      have apart' : Apart (backward.size +
          (((forward.nextRuns first.toArray second.toArray).map Run.stop).size - 1))
          first.reverse second.reverse := by
        rw [Array.size_map, size_nextRuns, Nat.add_sub_cancel, Nat.add_comm]
        exact apart.reverse
      split
      · next run met =>
        have splits := (splits_of_meeting? holds' next apart' (by simpa using met)).2.reverse
        rw [Array.size_map, size_nextRuns, Nat.add_sub_cancel] at splits
        exact ⟨_, _, rfl, _, _, splits, apart, by omega, by omega⟩
      · next unmet =>
        have apart := (apart_of_meeting?_eq_none holds' next (by simp [size]) apart'
          (by simpa using unmet)).reverse
        simp only [List.reverse_reverse, Array.size_map, size_nextRuns] at apart
        refine ih holds.next holds'.next (by simp [size]) ?_ (by simp; omega)
        simp only [Array.size_map, size_nextRuns, Nat.add_sub_cancel]
        exact apart.mono (by omega)

/-- The search finds a point of a shortest path with half of its steps on either side. -/
theorem exists_split? (first second : Text) :
    ∃ column row, split? first.toArray second.toArray = some (column, row) ∧
      Halves first second column row := by
  simp only [split?, List.reverse_toArray, List.size_toArray]
  exact exists_meet? (holds_empty _ _) (holds_empty _ _) rfl (Apart.zero _ _) (by simp; omega)

end Frontier

end MailSort
