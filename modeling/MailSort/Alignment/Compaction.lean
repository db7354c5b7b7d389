import MailSort.Alignment.EditScript

/-! # Settling changes

A shortest script is rarely unique: an insertion beside a kept run may slide over it
whenever the characters allow.  `EditScript.compact` slides every change as far left as
it goes and then as far right as it goes, joining changes of one kind that meet, first
the deletions and then the insertions.  The texts and the number of kept characters stay
the same.
-/

namespace MailSort

namespace EditScript

/-- Slides an inserted text left over the end of the kept text before it, character by
    character, as long as both end alike.  The kept text comes in reversed.  The result is
    what is left of the kept text, the inserted text in its new place, and the kept text
    that now follows it. -/
def slideLeft : (keptBack inserted passed : Text) → Text × Text × Text
  | [], inserted, passed => ([], inserted, passed)
  | c :: keptBack, inserted, passed =>
    if inserted.getLast? = some c then slideLeft keptBack (c :: inserted.dropLast) (c :: passed)
    else ((c :: keptBack).reverse, inserted, passed)

/-- Slides an inserted text right over the beginning of the kept text after it, character
    by character, as long as both begin alike.  The result is the kept text that now
    precedes it, the inserted text in its new place, and what is left of the kept text. -/
def slideRight : (passed inserted kept : Text) → Text × Text × Text
  | passed, d :: inserted, c :: kept =>
    if d = c then slideRight (passed ++ [c]) (inserted ++ [c]) kept
    else (passed, d :: inserted, c :: kept)
  | passed, inserted, kept => (passed, inserted, kept)
termination_by _ _ kept => kept.length

/-- Puts a kept run behind the edits before the current place, which are given nearest
    first, as part of the nearest one if that is a kept run too. -/
def keepAfter (before : List Edit) (text : Text) : List Edit :=
  if text = [] then before
  else
    match before with
    | .keep last :: rest => .keep (last ++ text) :: rest
    | rest => .keep text :: rest

/-- Moves a change as far left as it goes: over changes of the other kind, into changes of
    its own kind, and over kept text if it is an insertion that may slide.  The edits
    before it are given nearest first.  Kept runs that are used up disappear. -/
def raise (kind : Change) : (before : List Edit) → (text : Text) → (after : List Edit) →
    List Edit × Text × List Edit
  | [], text, after => ([], text, after)
  | .keep kept :: before, text, after =>
    -- Only an insertion has text that may come from either side of it.
    let (left, moved, passed) :=
      match kind with
      | .insert => slideLeft kept.reverse text []
      | .delete => (kept, text, [])
    let after := keepBefore passed after
    if left = [] then raise kind before moved after else (.keep left :: before, moved, after)
  | .change other earlier :: before, text, after =>
    if other = kind then raise kind before (earlier ++ text) after
    else raise kind before text (.change other earlier :: after)

/-- Moves a change as far right as it goes, in the same way as `raise`. -/
def lower (kind : Change) : (before : List Edit) → (text : Text) → (after : List Edit) →
    List Edit × Text × List Edit
  | before, text, [] => (before, text, [])
  | before, text, .keep kept :: after =>
    let (passed, moved, left) :=
      match kind with
      | .insert => slideRight [] text kept
      | .delete => ([], text, kept)
    let before := keepAfter before passed
    if left = [] then lower kind before moved after else (before, moved, .keep left :: after)
  | before, text, .change other later :: after =>
    if other = kind then lower kind before (text ++ later) after
    else lower kind (.change other later :: before) text after

/-- Settles the changes of one kind from left to right, at most `turns` of them.  The edits
    already passed are given nearest first. -/
def settle (kind : Change) : (turns : Nat) → (before after : List Edit) → EditScript
  | 0, before, after => before.reverse ++ after
  | turns + 1, before, after =>
    let (skipped, rest) := after.span fun edit => !edit.isChange kind
    match rest with
    | .change _ text :: rest =>
      let (before, text, rest) := raise kind (skipped.reverse ++ before) text rest
      let (before, text, rest) := lower kind before text rest
      settle kind turns (.change kind text :: before) rest
    -- No change of this kind is left.
    | _ => before.reverse ++ after

/-- Settles the deletions of a script and then its insertions. -/
def compact (script : EditScript) : EditScript :=
  let deletions := settle .delete script.length [] script
  settle .insert deletions.length [] deletions

end EditScript

end MailSort
