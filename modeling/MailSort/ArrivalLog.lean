import MailSort.Text

/-! # Arrival logs

Templates and clusters depend on the order in which samples arrive.  An arrival log keeps
that order, and it keeps in mind where withdrawn samples were.  A sample that was
withdrawn last and arrives again goes back to its old place; any other sample is
appended, and then the old places are forgotten.
-/

namespace MailSort

/-- A withdrawn sample and the place it had. -/
structure Withdrawal where
  position : Nat
  sample : Text
  deriving DecidableEq, Repr

/-- Samples in the order of their arrival, and the withdrawals that can still be undone,
    the latest first. -/
structure ArrivalLog where
  samples : List Text
  withdrawals : List Withdrawal
  deriving DecidableEq, Repr

namespace ArrivalLog

def ofSamples (samples : List Text) : ArrivalLog :=
  ⟨samples, []⟩

instance : Inhabited ArrivalLog := ⟨ofSamples []⟩

def isEmpty (log : ArrivalLog) : Bool :=
  log.samples.isEmpty

def contains (log : ArrivalLog) (sample : Text) : Bool :=
  log.samples.contains sample

/-- Puts a sample back where it was if it was withdrawn last, and appends it otherwise. -/
def accept (log : ArrivalLog) (sample : Text) : ArrivalLog :=
  match log.withdrawals with
  | last :: earlier =>
    if last.sample = sample then
      ⟨log.samples.insertIdx (min last.position log.samples.length) sample, earlier⟩
    else ⟨log.samples ++ [sample], []⟩
  | [] => ⟨log.samples ++ [sample], []⟩

def acceptAll (log : ArrivalLog) (samples : List Text) : ArrivalLog :=
  samples.foldl accept log

/-- Takes the last occurrence of a sample out of some samples: the place it had and the
    other samples. -/
def takeLast? (sample : Text) : List Text → Option (Nat × List Text)
  | [] => none
  | first :: rest =>
    -- An occurrence further on goes first.
    match takeLast? sample rest with
    | some (position, rest) => some (position + 1, first :: rest)
    | none => if first = sample then some (0, rest) else none

/-- Withdraws the last occurrence of a sample, if it occurs. -/
def withdraw? (log : ArrivalLog) (sample : Text) : Option ArrivalLog :=
  (takeLast? sample log.samples).map fun (position, samples) =>
    ⟨samples, ⟨position, sample⟩ :: log.withdrawals⟩

/-- Withdraws the last occurrence of each of the given samples, one after the other.
    Samples that do not occur are passed over. -/
def withdrawAll (log : ArrivalLog) (samples : List Text) : ArrivalLog :=
  samples.foldl (fun log sample => (log.withdraw? sample).getD log) log

/-- Whether samples go to the end of a log with the given length and withdrawals.  Up to the
    first sample that undoes no withdrawal, each has to have had its place at the end. -/
def appends : (withdrawals : List Withdrawal) → (length : Nat) → List Text → Bool
  | last :: earlier, length, sample :: rest =>
    if last.sample = sample then length ≤ last.position && appends earlier (length + 1) rest
    else true
  | _, _, _ => true

def acceptsAtTail (log : ArrivalLog) (samples : List Text) : Bool :=
  appends log.withdrawals log.samples.length samples

end ArrivalLog

end MailSort
