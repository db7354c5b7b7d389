import MailSort.Alignment
import MailSort.Template.Budget
import MailSort.Template.Matching

/-! # Generalizing templates

A template that does not fit a new sample is made more general.  `Template.walk` takes
the template's literals through the sample from left to right: a literal that occurs in
what is left of the sample is kept, and one that does not is replaced by what it shares
with it.  `Template.realign` aligns the joined literals with the sample instead.
`Template.generalize` takes the first of the two that is empty or is found to fit the sample.
For that a template is compiled within the standard budget, whatever budget it is held to
elsewhere, and one that does not compile is taken not to fit.
-/

namespace MailSort

namespace Element

/-- Finds a literal in what is left of a sample.  Text that is skipped on the way needs a
    gap in front of the literal.  The result is the elements found and the text behind
    them. -/
def find? (part rest : Text) : Option (List Element × Text) :=
  (Text.breakAt? part rest).map fun (skipped, rest) =>
    (if skipped = [] then [.literal part] else [.wildcard, .literal part], rest)

/-- Finds the pieces of a literal one after the other; a piece that does not occur leaves a
    gap. -/
def findPieces : (pieces : List Element) → (rest : Text) → List Element × Text
  | [], rest => ([], rest)
  | .wildcard :: pieces, rest =>
    let (found, rest) := findPieces pieces rest
    (.wildcard :: found, rest)
  | .literal part :: pieces, rest =>
    match find? part rest with
    | some (first, rest) =>
      let (found, rest) := findPieces pieces rest
      (first ++ found, rest)
    | none =>
      let (found, rest) := findPieces pieces rest
      (.wildcard :: found, rest)

/-- The elements found for a literal that is not in what is left of the sample: the pieces
    it shares with it, or a gap if they share none. -/
def findShared (part rest : Text) (least : SegmentLength) : List Element × Text :=
  let shared := Template.common part rest least
  if shared.isEmpty then ([.wildcard], rest) else findPieces shared.elements rest

/-- Takes elements through a sample from left to right.  What is left of the sample at the
    end needs a gap. -/
def walk (least : SegmentLength) : (elements : List Element) → (rest : Text) → List Element
  | [], rest => if rest = [] then [] else [.wildcard]
  | .wildcard :: elements, rest => .wildcard :: walk least elements rest
  | .literal part :: elements, rest =>
    let (found, rest) := (find? part rest).getD (findShared part rest least)
    found ++ walk least elements rest

end Element

namespace Template

/-- The template found by taking the literals of a template through a sample. -/
def walk (template : Template) (sample : Text) (least : SegmentLength) : Template :=
  .ofElements (Element.walk least template.elements sample)

/-- The template found by aligning the joined literals of a template with a sample.  It
    keeps the wildcards that the template begins or ends with. -/
def realign (template : Template) (sample : Text) (least : SegmentLength) : Template :=
  let common := Template.common template.literalText sample least
  if common.isEmpty then common
  else
    .ofElements <|
      (if template.startsOpen then [.wildcard] else []) ++ common.elements ++
        (if template.endsOpen then [.wildcard] else [])

/-- Whether a template may stand for a sample: it says nothing, or it fits. -/
def allows (template : Template) (sample : Text) : Bool :=
  template.isEmpty || template.fits sample

/-- Whether a template compiles within the standard budget and fits a sample. -/
def accepts [Compiler] (template : Template) (sample : Text) : Bool :=
  match template.checkBudget standardBudget with
  | .ok () => template.fits sample
  -- What does not compile is taken not to fit.
  | .error _ => false

/-- Whether a template is settled on for a sample: it says nothing, or it is found to fit. -/
def settles [Compiler] (template : Template) (sample : Text) : Bool :=
  template.isEmpty || template.accepts sample

/-- The template that is consistent with a template and with a new sample.  An empty sample
    changes nothing, and an empty template stays empty. -/
def generalize [Compiler] (template : Template) (sample : Text) (least : SegmentLength) :
    Template :=
  if sample = [] ∨ template.settles sample then template
  else
    let walked := template.walk sample least
    if walked.settles sample then walked
    else
      let realigned := template.realign sample least
      if realigned.settles sample then realigned else .empty

end Template

end MailSort
