import MailSort.Text.Quoted

/-! # Faults

What can go wrong while models are built and updated.  A fault is a cause; its wording is
`Fault.message`.
-/

namespace MailSort

/-- A template whose compiled form does not fit into the bytes allowed for it. -/
structure OverBudget where
  budget : Nat
  deriving DecidableEq, Repr

def OverBudget.message (cause : OverBudget) : String :=
  "Compiled regex exceeds size limit of " ++ toString cause.budget ++ " bytes."

/-- A failed operation on models or predictors. -/
inductive Fault where
  | segmentTooShort (length : Nat)
  | rebuildFailed (cause : OverBudget)
  | unknownMailbox (name : Text)
  | unknownPredictor (name : Text)
  deriving DecidableEq, Repr

def Fault.message : Fault → String
  | .segmentTooShort length =>
    "minimum segment length must be at least 2, but was " ++ toString length
  | .rebuildFailed cause => "model rebuild failed: " ++ cause.message
  | .unknownMailbox name => "mailbox " ++ name.quoted ++ " has not been registered"
  | .unknownPredictor name => "unknown predictor " ++ name.quoted

end MailSort
