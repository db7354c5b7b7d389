import MailSort.Text

/-! # Templates

A template is the shape that a set of texts has in common: literal runs that all of them
contain, separated by wildcards for what differs.

Templates are kept in a normal form: no literal is empty, literals and wildcards
alternate, and a wildcard never stands alone.  The template without elements says that
there is nothing in common; it fits no text.
-/

namespace MailSort

/-- One element of a template. -/
inductive Element where
  /-- Text that appears exactly as it is. -/
  | literal (text : Text)
  /-- Any text, possibly none. -/
  | wildcard
  deriving DecidableEq, Repr

namespace Element

def isWildcard : Element → Bool
  | .literal _ => false
  | .wildcard => true

def literal? : Element → Option Text
  | .literal text => some text
  | .wildcard => none

/-- Neighbouring elements are of different kinds. -/
def Alternating : List Element → Prop
  | first :: second :: rest =>
    first.isWildcard ≠ second.isWildcard ∧ Alternating (second :: rest)
  | _ => True

/-- The normal form of the elements of a template. -/
structure Normal (elements : List Element) : Prop where
  no_empty_literal : .literal [] ∉ elements
  alternating : Alternating elements
  not_lone_wildcard : elements ≠ [.wildcard]

/-- Puts an element in front of tidy elements and keeps them tidy: an empty literal is
    dropped, a literal is joined to a literal, and a wildcard is absorbed by a wildcard. -/
def attach : Element → List Element → List Element
  | .literal [], rest => rest
  | .literal text, .literal next :: rest => .literal (text ++ next) :: rest
  | .wildcard, .wildcard :: rest => .wildcard :: rest
  | element, rest => element :: rest

/-- Joins neighbouring literals and neighbouring wildcards.  An empty literal does not
    separate its neighbours. -/
def tidy (elements : List Element) : List Element :=
  elements.foldr attach []

theorem literal_nil_not_mem_attach {element : Element} {rest : List Element}
    (h : .literal [] ∉ rest) : .literal [] ∉ attach element rest := by
  unfold attach
  split
  · exact h
  · simp_all
  · exact h
  · next nonempty _ _ =>
    rw [List.mem_cons, not_or]
    exact ⟨fun same => nonempty same.symm, h⟩

theorem alternating_attach {element : Element} {rest : List Element}
    (h : Alternating rest) : Alternating (attach element rest) := by
  unfold attach
  split
  · exact h
  · next text next rest _ =>
    cases rest with
    | nil => trivial
    | cons second rest => exact h
  · exact h
  · next joined absorbed =>
    cases rest with
    | nil => trivial
    | cons second rest =>
      refine ⟨fun same => ?_, h⟩
      cases element <;> cases second <;> simp [isWildcard] at same joined absorbed

theorem literal_nil_not_mem_tidy (elements : List Element) : .literal [] ∉ tidy elements := by
  induction elements with
  | nil => simp [tidy]
  | cons element elements ih => exact literal_nil_not_mem_attach ih

theorem alternating_tidy (elements : List Element) : Alternating (tidy elements) := by
  induction elements with
  | nil => trivial
  | cons element elements ih => exact alternating_attach ih

end Element

/-- A template: a normal list of elements. -/
structure Template where
  elements : List Element
  normal : Element.Normal elements
  deriving DecidableEq

namespace Template

def empty : Template where
  elements := []
  normal := ⟨by simp, trivial, by simp⟩

instance : Inhabited Template := ⟨empty⟩

/-- The template of a list of elements, brought into normal form. -/
def ofElements (elements : List Element) : Template :=
  -- A wildcard alone says nothing about a text.
  if h : Element.tidy elements = [.wildcard] then empty
  else ⟨Element.tidy elements,
    Element.literal_nil_not_mem_tidy elements, Element.alternating_tidy elements, h⟩

variable (template : Template)

def isEmpty : Bool :=
  template.elements.isEmpty

def startsOpen : Bool :=
  template.elements.head?.any Element.isWildcard

def endsOpen : Bool :=
  template.elements.getLast?.any Element.isWildcard

def gapCount : Nat :=
  template.elements.countP Element.isWildcard

def literals : List Text :=
  template.elements.filterMap Element.literal?

/-- The literals put together, without what the wildcards stand for. -/
def literalText : Text :=
  template.literals.flatten

def literalLength : Nat :=
  template.literalText.length

end Template

end MailSort
