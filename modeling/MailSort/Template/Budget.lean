import MailSort.Fault
import MailSort.Template

/-! # Budgets

A template is held to a budget of bytes for its compiled form.  The empty template needs
none.  Whether any other fits into a budget is up to the compiler in use, of which nothing is
assumed here.  It does not only decide whether a model is built: a template that is made more
general is compiled within the standard budget, so what comes of it depends on the compiler as
well.
-/

namespace MailSort

/-- A compiler for templates with elements. -/
class Compiler where
  /-- Whether the compiled form of a template fits into a budget of bytes. -/
  succeeds : Template → (budget : Nat) → Bool

namespace Template

/-- The budget when none is set, in bytes. -/
def standardBudget : Nat :=
  64 * 1048576

/-- What every template with elements needs before its elements count. -/
def overhead : Nat := 100

/-- The compiler that is used when no other is chosen: a budget above the overhead is taken
    to be enough. -/
instance : Compiler where
  succeeds _ budget := overhead < budget

def checkBudget [Compiler] (template : Template) (budget : Nat) : Except OverBudget Unit :=
  if template.isEmpty ∨ Compiler.succeeds template budget then .ok () else .error ⟨budget⟩

end Template

end MailSort
