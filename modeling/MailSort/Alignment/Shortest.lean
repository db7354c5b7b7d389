import MailSort.Alignment.EditScript
import MailSort.Alignment.Frontier

/-! # Shortest edit scripts

`EditScript.shortest` takes off what two texts share at both ends and cuts what is left
in two at a point of a shortest path, until one side of a part is empty.
-/

namespace MailSort

/-- A point that cuts two texts in two, with something on both sides of it. -/
structure Cut (first second : Text) where
  column : Nat
  row : Nat
  column_le : column ≤ first.length
  row_le : row ≤ second.length
  pos : 0 < column + row
  lt_length : column + row < first.length + second.length

namespace EditScript

/-- A script that keeps a run, or the empty script for the empty run. -/
def keeping (text : Text) : EditScript :=
  if text = [] then [] else [.keep text]

def cut? (first second : Text) : Option (Cut first second) :=
  match Frontier.split? first.toArray second.toArray with
  | some (column, row) =>
    if h : (column ≤ first.length ∧ row ≤ second.length) ∧
        0 < column + row ∧ column + row < first.length + second.length then
      some ⟨column, row, h.1.1, h.1.2, h.2.1, h.2.2⟩
    else none
  | none => none

/-- A shortest script from one text to another, before its changes are settled. -/
def shortest (first second : Text) : EditScript :=
  let start := Text.splitPrefix first second
  let stop := Text.splitSuffix start.2.1 start.2.2
  let middle :=
    if stop.2.1 = [] ∧ stop.2.2 = [] then []
    else if stop.2.2 = [] then [.change .delete stop.2.1]
    else if stop.2.1 = [] then [.change .insert stop.2.2]
    else
      match cut? stop.2.1 stop.2.2 with
      | some cut =>
        shortest (stop.2.1.take cut.column) (stop.2.2.take cut.row) ++
          shortest (stop.2.1.drop cut.column) (stop.2.2.drop cut.row)
      -- Where there is no cut to be found, everything changes.
      | none => [.change .delete stop.2.1, .change .insert stop.2.2]
  keeping start.1 ++ middle ++ keeping stop.1
termination_by first.length + second.length
decreasing_by
  all_goals
    -- Both sides of a cut are shorter than the whole, and the shared ends are no part of them.
    have hStart := Text.length_splitPrefix_le first second
    have hStop := Text.length_splitSuffix_le start.2.1 start.2.2
    have hColumn := cut.column_le
    have hRow := cut.row_le
    have hPos := cut.pos
    have hLt := cut.lt_length
    simp only [List.length_take, List.length_drop, stop, start] at *
    omega

end EditScript

end MailSort
