import MailSort.Alignment.Shortest
import MailSort.Alignment.Compaction
import MailSort.SegmentLength
import MailSort.Template

/-! # Alignments

Two texts are aligned by a shortest edit script whose changes are settled and whose kept
runs are maximal.  An alignment is worked out once and can then be read at any least
length: how many characters lie in shared runs that are long enough, and which template
those runs make.

No deadline is kept.  An alignment is worked out to its end however long that takes, and depends
on nothing but the two texts.
-/

namespace MailSort

namespace EditScript

def between (first second : Text) : EditScript :=
  (shortest first second).compact.joined

/-- The number of characters in shared runs of at least the given length. -/
def sharedLength (script : EditScript) (least : Nat) : Nat :=
  (script.kept.filter fun run => least ≤ run.length).flatten.length

/-- What an edit contributes to a template: a run that is long enough is a literal, and
    all else is a gap. -/
def toElement (least : Nat) : Edit → Element
  | .keep run => if least ≤ run.length then .literal run else .wildcard
  | .change _ _ => .wildcard

def template (script : EditScript) (least : SegmentLength) : Template :=
  .ofElements (script.map (toElement least.chars))

end EditScript

/-- The template that two texts have in common: the empty one if they share no run that is
    long enough. -/
def Template.common (first second : Text) (least : SegmentLength) : Template :=
  (EditScript.between first second).template least

end MailSort
