/-! # Search frontiers

A path through the grid of two texts steps right over a character of the first text,
down over a character of the second, and diagonally over a character they share.  After
`d` rounds a `Frontier` records, for each diagonal `k = d, d - 2, …, -d`, the column of
the furthest point that a path with `d` steps off the diagonals can reach on it.

`Frontier.split?` searches from both corners at once until the two frontiers meet.  The
upper left end of the diagonal run on which they meet lies on a shortest path.
-/

namespace MailSort

/-- The furthest columns reached after a round, from the highest diagonal to the lowest.
    After round `d` there are `d + 1` of them; before the first round there are none. -/
abbrev Frontier := Array Nat

/-- A diagonal run: where it begins, and over how many shared characters it goes. -/
structure Run where
  column : Nat
  row : Nat
  length : Nat
  deriving DecidableEq, Repr

namespace Run

/-- The column behind the last character of a run. -/
def stop (run : Run) : Nat :=
  run.column + run.length

end Run

namespace Frontier

/-- The column reached on diagonal `k`, if the round has a point there.  The diagonals of
    one round are two apart, so every other diagonal has none. -/
def column? (frontier : Frontier) (k : Int) : Option Nat :=
  let twice : Int := frontier.size - 1 - k
  if twice < 0 ∨ twice % 2 ≠ 0 then none else frontier[(twice / 2).toNat]?

/-- How many characters two texts share from the given positions on. -/
def sharedFrom (first second : Array Char) (column row : Nat) : Nat :=
  if h : column < first.size ∧ row < second.size then
    if first[column] = second[row] then sharedFrom first second (column + 1) (row + 1) + 1
    else 0
  else 0
termination_by first.size - column

/-- The column at which the next round enters its diagonal number `i`: from the diagonal
    above by a step down, or from the one below by a step right, whichever gets further.
    A tie goes to the step right. -/
def entry (frontier : Frontier) (i : Nat) : Nat :=
  match (if i = 0 then none else frontier[i - 1]?), frontier[i]? with
  | none, none => 0
  | some above, none => above
  | none, some below => below + 1
  | some above, some below => if below < above then above else below + 1

/-- The diagonal runs of the next round, from the highest diagonal to the lowest. -/
def nextRuns (first second : Array Char) (frontier : Frontier) : Array Run :=
  Array.ofFn fun i : Fin (frontier.size + 1) =>
    let column := frontier.entry i
    -- Diagonal number `i` is that of `size - 2 * i`, the column less the row.
    let row := column + 2 * i - frontier.size
    ⟨column, row, sharedFrom first second column row⟩

/-- The first of a round's runs that touches or passes the other side's frontier.  A point
    in column `c` on diagonal `k` lies, seen from the opposite corner, on diagonal
    `lead - k`, where `lead` is how much longer the first text is. -/
def meeting? (columns : Nat) (lead : Int) (opposite : Frontier) (runs : Array Run) : Option Run :=
  (List.range runs.size).findSome? fun (i : Nat) =>
    match runs[i]?, opposite.column? (lead - ((runs.size : Int) - 1 - 2 * i)) with
    | some run, some reached => if columns ≤ run.stop + reached then some run else none
    | _, _ => none

/-- Plays at most `rounds` further rounds from both corners, the upper left one first.
    The texts are given forwards and backwards. -/
def meet? (first second firstBack secondBack : Array Char) :
    (rounds : Nat) → (forward backward : Frontier) → Option (Nat × Nat)
  | 0, _, _ => none
  | rounds + 1, forward, backward =>
    let lead : Int := first.size - second.size
    let forwardRuns := forward.nextRuns first second
    match meeting? first.size lead backward forwardRuns with
    | some run => some (run.column, run.row)
    | none =>
      -- Seen from the other corner, runs end where they begin here.
      let forward := forwardRuns.map Run.stop
      let backwardRuns := backward.nextRuns firstBack secondBack
      match meeting? first.size lead forward backwardRuns with
      | some run => some (first.size - run.stop, second.size - (run.row + run.length))
      | none => meet? first second firstBack secondBack rounds forward (backwardRuns.map Run.stop)

/-- A point at which a shortest path between two texts can be split: how many characters of
    each text come before it. -/
def split? (first second : Array Char) : Option (Nat × Nat) :=
  meet? first second first.reverse second.reverse
    -- A path is no longer than both texts, and each side plays half of it.
    ((first.size + second.size + 1) / 2 + 1) #[] #[]

end Frontier

end MailSort
