import MailSort.ArrivalLog
import MailSort.Template.Budget
import MailSort.Template.Generalize
import MailSort.TransitionTable

/-! # Template models

A template model learns what a set of samples has in common: a template that fits them
and, for each gap of the template, a transition table of what fills the gap.

Samples that arrive at the end and fit the template only feed the tables.  Everything else
makes the model stale, and it is built again from its samples in the order of their
arrival.  A model is complete before it takes the place of another, so an update that
fails changes nothing.
-/

namespace MailSort

/-- Whether samples can be taken in without building the model again. -/
inductive Freshness where
  | fresh
  | stale
  deriving DecidableEq, Repr

/-- A template and what fills its gaps. -/
structure TemplateModel where
  segmentLength : SegmentLength
  /-- The budget that every template on the way has to keep. -/
  budget : Nat
  template : Template
  /-- One table for each gap, in order. -/
  gapTables : List TransitionTable
  arrivals : ArrivalLog
  /-- The length of the longest sample. -/
  longest : Nat
  deriving DecidableEq

namespace Template

/-- The template that also stands for a new sample, within a budget. -/
def extend [Compiler] (least : SegmentLength) (budget : Nat) (template : Template)
    (sample : Text) : Except OverBudget Template :=
  if template.allows sample then .ok template
  else
    let extended := template.generalize sample least
    (extended.checkBudget budget).map fun () => extended

/-- The template of samples in the order of their arrival: what the first two have in
    common, made more general for each of the others.  Fewer than two samples have none. -/
def ofSamples [Compiler] (least : SegmentLength) (budget : Nat) :
    List Text → Except OverBudget Template
  | first :: second :: rest => do
    let template := common first second least
    template.checkBudget budget
    rest.foldlM (extend least budget) template
  | _ => .ok .empty

/-- Adds what fills the gaps in a sample to the tables of the gaps.  A sample that does not
    fit adds nothing. -/
def feed (template : Template) (tables : List TransitionTable) (sample : Text) :
    List TransitionTable :=
  match template.gaps? sample with
  | some gaps => List.zipWith TransitionTable.add tables gaps
  | none => tables

end Template

/-- The length of the longest of some texts, and at least the given length. -/
def Text.longest (atLeast : Nat) (texts : List Text) : Nat :=
  texts.foldl (fun length text => max length text.length) atLeast

namespace TemplateModel

variable [Compiler]

def build (arrivals : ArrivalLog) (least : SegmentLength) (budget : Nat) :
    Except Fault TemplateModel := do
  let template ← (Template.ofSamples least budget arrivals.samples).mapError .rebuildFailed
  return {
    segmentLength := least
    budget := budget
    template := template
    gapTables := arrivals.samples.foldl template.feed (List.replicate template.gapCount .empty)
    arrivals := arrivals
    longest := Text.longest 0 arrivals.samples }

/-- The model of some samples, with a segment length that has yet to be checked. -/
def ofSamples (samples : List Text) (least budget : Nat) : Except Fault TemplateModel := do
  build (.ofSamples samples) (← SegmentLength.ofNat? least) budget

variable (model : TemplateModel)

def samples : List Text :=
  model.arrivals.samples

/-- The table of the gap at the beginning, if the template begins with a gap. -/
def startTable? : Option TransitionTable :=
  if model.template.startsOpen then model.gapTables.head? else none

/-- The table of the gap at the end, if the template ends with a gap. -/
def finishTable? : Option TransitionTable :=
  if model.template.endsOpen then model.gapTables.getLast? else none

/-- The tables of the gaps between literals. -/
def interiorTables : List TransitionTable :=
  let tables := if model.template.endsOpen then model.gapTables.dropLast else model.gapTables
  if model.template.startsOpen then tables.tail else tables

/-- Whether samples can be taken in as they come: the model has its template, and they
    arrive at the end and fit. -/
def freshness (samples : List Text) : Freshness :=
  if 2 ≤ model.samples.length ∧ model.arrivals.acceptsAtTail samples ∧
      samples.all model.template.allows then .fresh
  else .stale

def add (samples : List Text) : Except Fault TemplateModel :=
  if samples = [] then .ok model
  else
    let arrivals := model.arrivals.acceptAll samples
    match model.freshness samples with
    | .fresh =>
      .ok { model with
        gapTables := samples.foldl model.template.feed model.gapTables
        arrivals := arrivals
        longest := Text.longest model.longest samples }
    -- The tables depend on the template, so they are filled anew as well.
    | .stale => build arrivals model.segmentLength model.budget

/-- Removes the last occurrence of each of the given samples. -/
def remove (samples : List Text) : Except Fault TemplateModel :=
  if samples.any model.arrivals.contains then
    build (model.arrivals.withdrawAll samples) model.segmentLength model.budget
  else .ok model

def templateWith (sample : Text) : Template :=
  match model.samples with
  | [] => .empty
  | [only] => .common only sample model.segmentLength
  | _ =>
    if model.template.fits sample then model.template
    else model.template.generalize sample model.segmentLength

end TemplateModel

end MailSort
