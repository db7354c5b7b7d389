import MailSort.Score
import MailSort.Tally
import MailSort.Text

/-! # Transition tables

A transition table counts which character follows which in a set of samples.  The
beginning and the end of a sample count as characters of their own.  How typical a text
is of the samples is the mean probability of its transitions: of each, the share it has
among the transitions with the same first character.

A sample that is taken away again is subtracted from the counts and from the totals, none
of which falls below 0.
-/

namespace MailSort

/-- What a transition leads from or to. -/
inductive Token where
  | start
  | char (c : Char)
  | finish
  deriving DecidableEq, Repr

/-- The place of a token in the order: the start, the characters by code point, the end. -/
def Token.rank : Token → Nat
  | .start => 0
  | .char c => c.toNat + 1
  | .finish => 0x110001

/-- One step from a token to the next. -/
structure Transition where
  source : Token
  target : Token
  deriving DecidableEq, Repr

namespace Token

theorem rank_injective {first second : Token} (h : first.rank = second.rank) :
    first = second := by
  have bound (c : Char) : c.toNat + 1 < 0x110001 := by
    have h := c.valid
    simp only [Char.toNat, UInt32.isValidChar, Nat.isValidChar] at *
    omega
  cases first <;> cases second <;> simp_all [rank]
  · next c d => exact Char.toNat_inj.1 h
  · next c => have := bound c; omega
  · next c => have := bound c; omega

instance : Ord Token := ⟨compareOn rank⟩

instance : Std.TransOrd Token := inferInstanceAs (Std.TransCmp (compareOn rank))

instance : Std.LawfulEqOrd Token where
  compare_self := Nat.compare_eq_eq.2 rfl
  eq_of_compare h := rank_injective (Nat.compare_eq_eq.1 h)

end Token

namespace Transition

/-- Transitions are ordered by their sources and then by their targets. -/
instance : Ord Transition := ⟨compareLex (compareOn source) (compareOn target)⟩

instance : Std.TransOrd Transition :=
  inferInstanceAs (Std.TransCmp (compareLex (compareOn source) (compareOn target)))

theorem compare_eq_then (first second : Transition) :
    compare first second =
      (compare first.source second.source).then (compare first.target second.target) :=
  rfl

instance : Std.LawfulEqOrd Transition where
  compare_self := by
    intro transition
    rw [compare_eq_then, Ordering.then_eq_eq]
    exact ⟨Std.ReflCmp.compare_self, Std.ReflCmp.compare_self⟩
  eq_of_compare := by
    intro first second same
    rw [compare_eq_then, Ordering.then_eq_eq] at same
    cases first
    cases second
    cases Std.LawfulEqCmp.eq_of_compare same.1
    cases Std.LawfulEqCmp.eq_of_compare same.2
    rfl

end Transition

/-- The transitions of a sample, from its start to its end. -/
def Text.transitions (sample : Text) : List Transition :=
  let tokens := sample.map Token.char
  List.zipWith Transition.mk (.start :: tokens) (tokens ++ [.finish])

/-- Counts of the transitions in a set of samples. -/
structure TransitionTable where
  /-- How often each transition occurs. -/
  counts : Tally Transition
  /-- How many transitions leave each token. -/
  outgoing : Tally Token
  totalLength : Nat
  totalSamples : Nat
  deriving DecidableEq

namespace TransitionTable

def empty : TransitionTable :=
  ⟨.empty, .empty, 0, 0⟩

instance : Inhabited TransitionTable := ⟨empty⟩

def isEmpty (table : TransitionTable) : Bool :=
  table.counts.isEmpty

def addTransition (table : TransitionTable) (transition : Transition) (amount : Nat) :
    TransitionTable :=
  { table with
    counts := table.counts.add transition amount
    outgoing := table.outgoing.add transition.source amount }

/-- Counts a transition fewer times, as far as it was counted. -/
def takeTransition (table : TransitionTable) (transition : Transition) (amount : Nat) :
    TransitionTable :=
  { table with
    counts := table.counts.take transition amount
    -- Only what was counted is missing from the total.
    outgoing :=
      table.outgoing.take transition.source (min amount (table.counts.count transition)) }

/-- Adds a sample.  The empty sample has the one transition from the start to the end. -/
def add (table : TransitionTable) (sample : Text) : TransitionTable :=
  let table := sample.transitions.foldl (addTransition · · 1) table
  { table with
    totalLength := table.totalLength + sample.length
    totalSamples := table.totalSamples + 1 }

def subtract (table : TransitionTable) (sample : Text) : TransitionTable :=
  let table := sample.transitions.foldl (takeTransition · · 1) table
  { table with
    totalLength := table.totalLength - sample.length
    totalSamples := table.totalSamples - 1 }

def addTable (table other : TransitionTable) : TransitionTable :=
  let table := other.counts.toList.foldl
    (fun table entry => table.addTransition entry.1 entry.2) table
  { table with
    totalLength := table.totalLength + other.totalLength
    totalSamples := table.totalSamples + other.totalSamples }

def subtractTable (table other : TransitionTable) : TransitionTable :=
  let table := other.counts.toList.foldl
    (fun table entry => table.takeTransition entry.1 entry.2) table
  { table with
    totalLength := table.totalLength - other.totalLength
    totalSamples := table.totalSamples - other.totalSamples }

def ofSamples (samples : List Text) : TransitionTable :=
  samples.foldl add empty

section Scores

variable {α : Type} [Score α]

/-- The share of a transition among those that leave its source, and 0 if it was never
    seen. -/
def probability (table : TransitionTable) (transition : Transition) : α :=
  let seen := table.counts.count transition
  let total := table.outgoing.count transition.source
  if seen = 0 ∨ total = 0 then Score.zero else Score.ratio seen total

def confidence (table : TransitionTable) (candidate : Text) : α :=
  Score.mean (candidate.transitions.map table.probability)

end Scores

end TransitionTable

end MailSort
