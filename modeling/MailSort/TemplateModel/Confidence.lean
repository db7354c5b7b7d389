import MailSort.Score
import MailSort.TemplateModel

/-! # Confidence of template models

A text that fits the template of a model is as typical of it as what fills the gaps is of
their tables.  A text that does not fit is not typical at all.  As long as a model has no
template, a text counts by the part of it that it shares with one of the samples.

`TemplateModel.assess` also says how much of the template would be left if the text were
added, from the same alignment.
-/

namespace MailSort

/-- How typical a text is of a model, and how many characters in literals would be left
    with it.  The latter is worked out only if the text is typical at all. -/
structure Assessment (α : Type) where
  confidence : α
  mergedLength : Option Nat
  deriving DecidableEq, Repr

section

variable {α : Type} [Score α]

/-- The share of a text that an alignment with it covers with runs of at least the shortest
    segment length. -/
def EditScript.coverage (script : EditScript) (candidate : Text) : α :=
  if candidate = [] then Score.zero
  else Score.ratio (script.sharedLength SegmentLength.shortest.chars) candidate.length

namespace TemplateModel

variable (model : TemplateModel)

/-- The largest share of a text that one of the samples covers. -/
def coverage (candidate : Text) : α :=
  Score.highest <|
    model.samples.map fun sample => (EditScript.between sample candidate).coverage candidate

/-- How typical a text is of the samples. -/
def confidence (candidate : Text) : α :=
  if model.template.isEmpty then model.coverage candidate
  else
    match model.template.gaps? candidate with
    | none => Score.zero
    | some gaps =>
      if model.gapTables.isEmpty then Score.one
      else Score.mean (List.zipWith TransitionTable.confidence model.gapTables gaps)

/-- How typical a text is, and how much of the template it would leave. -/
def assess (candidate : Text) : Assessment α :=
  match model.samples with
  | [only] =>
    let script := EditScript.between only candidate
    let confidence : α := script.coverage candidate
    { confidence := confidence
      mergedLength :=
        if Score.zero < confidence then some (script.sharedLength model.segmentLength.chars)
        else none }
  | _ =>
    let confidence : α := model.confidence candidate
    { confidence := confidence
      mergedLength :=
        if Score.zero < confidence then some model.template.literalLength else none }

end TemplateModel

end

end MailSort
