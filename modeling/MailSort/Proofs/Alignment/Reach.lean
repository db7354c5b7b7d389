import MailSort.Alignment.Frontier
import MailSort.Proofs.Text.Changes

/-! # Furthest points

A point is reached in so many rounds if the texts before it share a subsequence that leaves out
fewer characters than there were rounds (`Frontier.Reaches`).  Points outside the grid are
reached as well: behind the end of a text there is nothing that could be shared.

A frontier is right if it holds the furthest point that is reached on each of its diagonals
(`Frontier.Holds`).  One round keeps it so (`Frontier.Holds.next`): a point that lies further on
its diagonal than where the run on it stops would be entered by a step off a neighbouring
diagonal, from a point that lies further than the one the frontier holds there.
-/

namespace MailSort

namespace Text

variable {shared text : Text} {i : Nat}

/-- A subsequence of one character more ends with that character or does without it. -/
theorem sublist_take_succ (inside : shared.Sublist (text.take (i + 1))) :
    shared.Sublist (text.take i) ∨
      ∃ start c, shared = start ++ [c] ∧ start.Sublist (text.take i) ∧ text[i]? = some c := by
  rw [List.take_add_one, List.sublist_append_iff] at inside
  obtain ⟨start, stop, rfl, inStart, inStop⟩ := inside
  cases here : text[i]? with
  | none =>
    rw [here, Option.toList_none, List.sublist_nil] at inStop
    rw [inStop, List.append_nil]
    exact .inl inStart
  | some c =>
    rw [here, Option.toList_some] at inStop
    obtain rfl | rfl := List.sublist_singleton.1 inStop
    · rw [List.append_nil]
      exact .inl inStart
    · exact .inr ⟨start, c, rfl, inStart, rfl⟩

theorem dropLast_sublist_take (inside : shared.Sublist (text.take (i + 1))) :
    shared.dropLast.Sublist (text.take i) := by
  obtain without | ⟨start, c, rfl, inStart, -⟩ := sublist_take_succ inside
  · exact (List.dropLast_sublist shared).trans without
  · rwa [List.dropLast_concat]

end Text

namespace Frontier

/-- A point that a path with fewer steps off the diagonals than rounds leads to. -/
def Reaches (first second : Text) (rounds column row : Nat) : Prop :=
  ∃ shared : Text, shared.Sublist (first.take column) ∧ shared.Sublist (second.take row) ∧
    column + row < 2 * shared.length + rounds

variable {first second : Text} {rounds column row : Nat}

namespace Reaches

theorem origin (first second : Text) : Reaches first second 1 0 0 :=
  ⟨[], List.nil_sublist _, List.nil_sublist _, Nat.zero_lt_one⟩

/-- A point is no further from the main diagonal than there were steps off the diagonals. -/
theorem near (reached : Reaches first second rounds column row) :
    column < row + rounds ∧ row < column + rounds := by
  obtain ⟨shared, inFirst, inSecond, long⟩ := reached
  have narrow := inFirst.length_le
  have low := inSecond.length_le
  rw [List.length_take] at narrow low
  omega

theorem right (reached : Reaches first second rounds column row) :
    Reaches first second (rounds + 1) (column + 1) row := by
  obtain ⟨shared, inFirst, inSecond, long⟩ := reached
  refine ⟨shared, inFirst.trans ?_, inSecond, by omega⟩
  exact List.take_sublist_take_left (Nat.le_succ column)

theorem down (reached : Reaches first second rounds column row) :
    Reaches first second (rounds + 1) column (row + 1) := by
  obtain ⟨shared, inFirst, inSecond, long⟩ := reached
  refine ⟨shared, inFirst, inSecond.trans ?_, by omega⟩
  exact List.take_sublist_take_left (Nat.le_succ row)

/-- A path goes on over what the texts share behind a point. -/
theorem along (reached : Reaches first second rounds column row) {run : Text}
    (inFirst : run <+: first.drop column) (inSecond : run <+: second.drop row) :
    Reaches first second rounds (column + run.length) (row + run.length) := by
  obtain ⟨shared, before, before', long⟩ := reached
  refine ⟨shared ++ run, ?_, ?_, ?_⟩
  · rw [List.take_add, ← List.prefix_iff_eq_take.1 inFirst]
    exact before.append (List.Sublist.refl run)
  · rw [List.take_add, ← List.prefix_iff_eq_take.1 inSecond]
    exact before'.append (List.Sublist.refl run)
  · rw [List.length_append]
    omega

/-- All that comes before a point on its diagonal is reached as well. -/
theorem back {n : Nat} (reached : Reaches first second rounds (column + n) (row + n)) :
    Reaches first second rounds column row := by
  induction n with
  | zero => exact reached
  | succ n ih =>
    obtain ⟨shared, inFirst, inSecond, long⟩ := reached
    refine ih ⟨shared.dropLast, Text.dropLast_sublist_take inFirst,
      Text.dropLast_sublist_take inSecond, ?_⟩
    rw [List.length_dropLast]
    omega

/-- Where the texts do not go on alike, the next point of the diagonal is only reached by a last
    step off a neighbouring diagonal. -/
theorem last_step (reached : Reaches first second (rounds + 1) (column + 1) (row + 1))
    (differ : ∀ c, first[column]? = some c → second[row]? ≠ some c) :
    Reaches first second rounds column (row + 1) ∨
      Reaches first second rounds (column + 1) row := by
  obtain ⟨shared, inFirst, inSecond, long⟩ := reached
  obtain without | ⟨start, c, rfl, -, here⟩ := Text.sublist_take_succ inFirst
  · exact .inl ⟨shared, without, inSecond, by omega⟩
  · obtain without | ⟨start', d, same, -, here'⟩ := Text.sublist_take_succ inSecond
    · exact .inr ⟨start ++ [c], inFirst, without, by omega⟩
    · rw [List.append_singleton_inj.1 same |>.2] at here
      exact absurd here' (differ d here)

end Reaches

/-- Inside the grid a point is reached if the texts before it are close to each other. -/
theorem reaches_iff_within {changes : Nat} (inside : column ≤ first.length)
    (inside' : row ≤ second.length) :
    Reaches first second (changes + 1) column row ↔
      Text.Within changes (first.take column) (second.take row) := by
  have length := List.length_take_of_le inside
  have length' := List.length_take_of_le inside'
  constructor
  · rintro ⟨shared, inFirst, inSecond, long⟩
    exact ⟨shared, inFirst, inSecond, by omega⟩
  · rintro ⟨shared, inFirst, inSecond, long⟩
    exact ⟨shared, inFirst, inSecond, by omega⟩

/-! ## Runs -/

theorem sharedFrom_eq (first second : Array Char) (column row : Nat) :
    sharedFrom first second column row =
      (Text.splitPrefix (first.toList.drop column) (second.toList.drop row)).1.length := by
  fun_induction sharedFrom first second column row with
  | case1 column row inside alike ih =>
    have narrow : column < first.toList.length := inside.1
    have low : row < second.toList.length := inside.2
    rw [List.drop_eq_getElem_cons narrow, List.drop_eq_getElem_cons low, Text.splitPrefix,
      if_pos (show first.toList[column] = second.toList[row] from alike), ih]
    rfl
  | case2 column row inside differ =>
    have narrow : column < first.toList.length := inside.1
    have low : row < second.toList.length := inside.2
    rw [List.drop_eq_getElem_cons narrow, List.drop_eq_getElem_cons low, Text.splitPrefix,
      if_neg (show ¬first.toList[column] = second.toList[row] from differ)]
    rfl
  | case3 column row outside =>
    obtain narrow | low := Decidable.not_and_iff_or_not.1 outside
    · rw [List.drop_eq_nil_of_le (Nat.le_of_not_lt narrow)]
      rfl
    · rw [List.drop_eq_nil_of_le (Nat.le_of_not_lt low)]
      cases first.toList.drop column <;> rfl

/-- A run goes over text that comes next in both texts. -/
theorem sharedFrom_alike (first second : Text) (column row : Nat) :
    ∃ shared : Text, shared.length = sharedFrom first.toArray second.toArray column row ∧
      shared <+: first.drop column ∧ shared <+: second.drop row := by
  rw [sharedFrom_eq]
  exact ⟨_, rfl, ⟨_, Text.splitPrefix_append_first _ _⟩, ⟨_, Text.splitPrefix_append_second _ _⟩⟩

/-- A run stops where the texts go on differently. -/
theorem sharedFrom_stops {c : Char}
    (here : first[column + sharedFrom first.toArray second.toArray column row]? = some c) :
    second[row + sharedFrom first.toArray second.toArray column row]? ≠ some c := by
  rw [sharedFrom_eq, ← List.head?_drop, ← List.drop_drop] at here ⊢
  rw [Text.drop_length_splitPrefix_first] at here
  rw [Text.drop_length_splitPrefix_second]
  exact Text.head?_splitPrefix_ne here

/-! ## Diagonals -/

abbrev OnDiagonal (rounds i column row : Nat) : Prop :=
  column + 2 * i + 1 = row + rounds

structure IsFarthest (first second : Text) (rounds i column : Nat) : Prop where
  reached : ∃ row, OnDiagonal rounds i column row ∧ Reaches first second rounds column row
  farthest : ∀ other row, OnDiagonal rounds i other row →
    Reaches first second rounds other row → other ≤ column

def Holds (first second : Text) (frontier : Frontier) : Prop :=
  ∀ i column, frontier[i]? = some column → IsFarthest first second frontier.size i column

/-- A run of a round: it begins at a point that is reached, goes over characters that the texts
    share, and stops at the furthest point on its diagonal. -/
structure IsRun (first second : Text) (rounds i : Nat) (run : Run) : Prop where
  onDiagonal : OnDiagonal rounds i run.column run.row
  reached : Reaches first second rounds run.column run.row
  alike : ∃ shared : Text, shared.length = run.length ∧ shared <+: first.drop run.column ∧
    shared <+: second.drop run.row
  farthest : ∀ other row, OnDiagonal rounds i other row →
    Reaches first second rounds other row → other ≤ run.stop

variable {frontier : Frontier} {i : Nat} {run : Run}

theorem IsRun.stop_reached (isRun : IsRun first second rounds i run) :
    Reaches first second rounds run.stop (run.row + run.length) := by
  obtain ⟨shared, length, inFirst, inSecond⟩ := isRun.alike
  rw [Run.stop, ← length]
  exact isRun.reached.along inFirst inSecond

theorem IsRun.stop_onDiagonal (isRun : IsRun first second rounds i run) :
    OnDiagonal rounds i run.stop (run.row + run.length) := by
  have onDiagonal := isRun.onDiagonal
  rw [Run.stop]
  omega

theorem IsRun.isFarthest (isRun : IsRun first second rounds i run) :
    IsFarthest first second rounds i run.stop :=
  ⟨⟨_, isRun.stop_onDiagonal, isRun.stop_reached⟩, isRun.farthest⟩

/-! ## One round -/

theorem entry_zero (frontier : Frontier) :
    frontier.entry 0 = (frontier[0]?.map (· + 1)).getD 0 := by
  cases below : frontier[0]? <;> simp [entry, below]

/-- A diagonal is entered by the step that gets further. -/
theorem entry_succ (frontier : Frontier) (i : Nat) :
    frontier.entry (i + 1) =
      max (frontier[i]?.getD 0) ((frontier[i + 1]?.map (· + 1)).getD 0) := by
  cases above : frontier[i]? with
  | none => cases below : frontier[i + 1]? <;> simp [entry, above, below]
  | some column =>
    cases below : frontier[i + 1]? with
    | none => simp [entry, above, below]
    | some column' =>
      simp only [entry, Nat.add_sub_cancel, above, below, Nat.add_one_ne_zero, if_false,
        Option.getD_some, Option.map_some]
      split <;> omega

theorem below_lt_entry {below : Nat} (there : frontier[i]? = some below) :
    below < frontier.entry i := by
  cases i with
  | zero =>
    rw [entry_zero, there]
    exact Nat.lt_succ_self below
  | succ i =>
    rw [entry_succ, there]
    exact Nat.le_max_right _ (below + 1)

theorem above_le_entry {above : Nat} (there : frontier[i]? = some above) :
    above ≤ frontier.entry (i + 1) := by
  rw [entry_succ, there]
  exact Nat.le_max_left above _

@[simp] theorem size_nextRuns (first second : Array Char) (frontier : Frontier) :
    (frontier.nextRuns first second).size = frontier.size + 1 :=
  Array.size_ofFn

theorem of_getElem?_nextRuns {first second : Array Char}
    (there : (frontier.nextRuns first second)[i]? = some run) :
    i ≤ frontier.size ∧ run = ⟨frontier.entry i, frontier.entry i + 2 * i - frontier.size,
      sharedFrom first second (frontier.entry i) (frontier.entry i + 2 * i - frontier.size)⟩ := by
  rw [nextRuns, Array.getElem?_ofFn, Option.dite_none_right_eq_some] at there
  obtain ⟨inside, made⟩ := there
  exact ⟨Nat.le_of_lt_succ inside, (Option.some.inj made).symm⟩

namespace Holds

variable (holds : Holds first second frontier)
include holds

/-- A point that is reached in the rounds of a frontier is no further than the point that the
    frontier holds on its diagonal. -/
theorem exists_le (onDiagonal : OnDiagonal frontier.size i column row)
    (reached : Reaches first second frontier.size column row) :
    ∃ furthest, frontier[i]? = some furthest ∧ column ≤ furthest := by
  have inside : i < frontier.size := by
    have near := reached.near
    omega
  have there := Array.getElem?_eq_getElem inside
  exact ⟨frontier[i], there, (holds i _ there).farthest column row onDiagonal reached⟩

theorem step_right {below : Nat} (there : frontier[i]? = some below) :
    ∃ row, OnDiagonal (frontier.size + 1) i (below + 1) row ∧
      Reaches first second (frontier.size + 1) (below + 1) row := by
  obtain ⟨row, onDiagonal, reached⟩ := (holds i below there).reached
  exact ⟨row, by omega, reached.right⟩

theorem step_down {above : Nat} (there : frontier[i]? = some above) :
    ∃ row, OnDiagonal (frontier.size + 1) (i + 1) above row ∧
      Reaches first second (frontier.size + 1) above row := by
  obtain ⟨row, onDiagonal, reached⟩ := (holds i above there).reached
  exact ⟨row + 1, by omega, reached.down⟩

/-- The point at which a diagonal is entered is reached. -/
theorem entry_reached (inside : i ≤ frontier.size) :
    ∃ row, OnDiagonal (frontier.size + 1) i (frontier.entry i) row ∧
      Reaches first second (frontier.size + 1) (frontier.entry i) row := by
  cases i with
  | zero =>
    cases below : frontier[0]? with
    | none =>
      rw [entry_zero, below, Nat.le_zero.1 (Array.getElem?_eq_none_iff.1 below)]
      exact ⟨0, rfl, .origin first second⟩
    | some column =>
      rw [entry_zero, below]
      exact holds.step_right below
  | succ i =>
    have above := Array.getElem?_eq_getElem inside
    cases below : frontier[i + 1]? with
    | none =>
      rw [entry_succ, above, below]
      simpa using holds.step_down above
    | some column =>
      rw [entry_succ, above, below]
      obtain less | less := Nat.le_total frontier[i] (column + 1)
      · simpa [Nat.max_eq_right less] using holds.step_right below
      · simpa [Nat.max_eq_left less] using holds.step_down above

/-- No point further on a diagonal is reached than where two texts stop being alike behind the
    point at which it is entered. -/
theorem le_of_differ {stop stopRow : Nat} (entered : frontier.entry i ≤ stop)
    (onDiagonal : OnDiagonal (frontier.size + 1) i stop stopRow)
    (differ : ∀ c, first[stop]? = some c → second[stopRow]? ≠ some c)
    (other : OnDiagonal (frontier.size + 1) i column row)
    (reached : Reaches first second (frontier.size + 1) column row) : column ≤ stop := by
  by_contra further
  obtain ⟨n, rfl⟩ := Nat.exists_eq_add_of_lt (Nat.lt_of_not_le further)
  obtain rfl : row = stopRow + 1 + n := by omega
  -- The point right behind the stop is reached by a step off one of the neighbouring diagonals.
  rw [Nat.add_right_comm] at reached
  obtain below | above := reached.back.last_step differ
  · obtain ⟨furthest, there, beyond⟩ := holds.exists_le (i := i) (by omega) below
    have entry := below_lt_entry there
    omega
  · cases i with
    | zero =>
      have near := above.near
      omega
    | succ i =>
      obtain ⟨furthest, there, beyond⟩ := holds.exists_le (i := i) (by omega) above
      have entry := above_le_entry there
      omega

/-- What the next round finds on a diagonal. -/
theorem isRun (there : (frontier.nextRuns first.toArray second.toArray)[i]? = some run) :
    IsRun first second (frontier.size + 1) i run := by
  obtain ⟨inside, rfl⟩ := of_getElem?_nextRuns there
  obtain ⟨row, onDiagonal, reached⟩ := holds.entry_reached inside
  -- The row is the one that the column has on this diagonal.
  rw [show frontier.entry i + 2 * i - frontier.size = row by omega]
  refine ⟨onDiagonal, reached, sharedFrom_alike first second _ row, ?_⟩
  intro other row' onDiagonal' reached'
  simp only [Run.stop]
  exact holds.le_of_differ (Nat.le_add_right _ _) (by omega) (fun c => sharedFrom_stops)
    onDiagonal' reached'

/-- A round takes a frontier that holds the furthest points to one that holds them after one step
    more. -/
theorem next :
    Holds first second ((frontier.nextRuns first.toArray second.toArray).map Run.stop) := by
  intro i column there
  rw [Array.getElem?_map, Option.map_eq_some_iff] at there
  obtain ⟨run, there, rfl⟩ := there
  rw [Array.size_map, size_nextRuns]
  exact (holds.isRun there).isFarthest

end Holds

theorem holds_empty (first second : Text) : Holds first second #[] :=
  nofun

end Frontier

end MailSort
