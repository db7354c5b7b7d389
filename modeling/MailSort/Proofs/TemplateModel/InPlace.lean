import MailSort.Proofs.Procedure
import MailSort.TemplateModel

/-! # Template models in place

A fresh model takes in its samples one by one, and a stale one is overwritten by the model that
was built aside.  Nothing can fail once something has been written.
-/

namespace MailSort

namespace TemplateModel

variable [Compiler]

def absorbInPlace (sample : Text) : Procedure TemplateModel Unit := do
  modify fun model =>
    { model with gapTables := model.template.feed model.gapTables sample }
  modify fun model => { model with longest := max model.longest sample.length }

def rebuildInPlace (arrivals : ArrivalLog) : Procedure TemplateModel Unit := do
  let model ← get
  let rebuilt ← Procedure.attempt (build arrivals model.segmentLength model.budget)
  set rebuilt

def addInPlace (samples : List Text) : Procedure TemplateModel Unit := do
  let model ← get
  if samples = [] then pure ()
  else
    match model.freshness samples with
    | .fresh =>
      samples.forM absorbInPlace
      modify fun model => { model with arrivals := model.arrivals.acceptAll samples }
    | .stale => rebuildInPlace (model.arrivals.acceptAll samples)

def removeInPlace (samples : List Text) : Procedure TemplateModel Unit := do
  let model ← get
  if samples.any model.arrivals.contains then
    rebuildInPlace (model.arrivals.withdrawAll samples)
  else pure ()

theorem on_rebuildInPlace (arrivals : ArrivalLog) (model : TemplateModel) :
    (rebuildInPlace arrivals).on model =
      Procedure.settle (build arrivals model.segmentLength model.budget) model := by
  simp only [rebuildInPlace, Procedure.on_bind, Procedure.on_get, Procedure.on_attempt]
  cases build arrivals model.segmentLength model.budget <;> rfl

omit [Compiler] in
theorem on_forM_absorbInPlace (samples : List Text) (model : TemplateModel) :
    (samples.forM absorbInPlace).on model = (.ok (), { model with
      gapTables := samples.foldl model.template.feed model.gapTables
      longest := Text.longest model.longest samples }) := by
  induction samples generalizing model with
  | nil => rfl
  | cons sample samples ih =>
    rw [List.forM, Procedure.on_bind]
    exact ih _

theorem addInPlace_performs (samples : List Text) :
    (addInPlace samples).Performs (·.add samples) := by
  intro model
  simp only [addInPlace, Procedure.on_bind, Procedure.on_get, add]
  split
  · rfl
  · cases model.freshness samples with
    | fresh =>
      simp only [Procedure.on_bind, on_forM_absorbInPlace, Procedure.on_modify,
        Procedure.settle_ok]
    | stale => exact on_rebuildInPlace _ model

theorem removeInPlace_performs (samples : List Text) :
    (removeInPlace samples).Performs (·.remove samples) := by
  intro model
  simp only [removeInPlace, Procedure.on_bind, Procedure.on_get, remove]
  split
  · exact on_rebuildInPlace _ model
  · rfl

end TemplateModel

end MailSort
