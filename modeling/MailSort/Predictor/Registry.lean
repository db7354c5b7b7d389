import MailSort.Fault
import MailSort.SortedMap

/-! # Registries

A registry holds something for each mailbox that has been registered, in the order of the
names.  What belongs to a mailbox that has not been registered cannot be updated.
-/

namespace MailSort

/-- What is held for each registered mailbox, by the mailbox's name. -/
abbrev Registry (μ : Type) := SortedMap Text μ

namespace Registry

variable {μ : Type}

def find (registry : Registry μ) (mailbox : Text) : Except Fault μ :=
  match registry.get? mailbox with
  | some held => .ok held
  | none => .error (.unknownMailbox mailbox)

/-- Updates what is held for a mailbox.  If that fails nothing changes. -/
def update (registry : Registry μ) (mailbox : Text) (change : μ → Except Fault μ) :
    Except Fault (Registry μ) := do
  let changed ← change (← registry.find mailbox)
  return registry.insert mailbox changed

end Registry

end MailSort
