import MailSort.Proofs.Alignment.Agreement
import MailSort.Proofs.Template.Language

/-! # The template of an alignment

The runs that an alignment keeps, with wildcards for all else, stand for both of its texts
(`Template.fits_common`), and no literal is shorter than the segment length
(`Template.longLiterals_common`).
-/

namespace MailSort

namespace Element

def LongLiterals (least : Nat) (elements : List Element) : Prop :=
  ∀ part, .literal part ∈ elements → least ≤ part.length

variable {least : Nat} {elements others : List Element}

theorem longLiterals_cons_literal {part : Text} :
    LongLiterals least (.literal part :: elements) ↔
      least ≤ part.length ∧ LongLiterals least elements := by
  simp [LongLiterals]

theorem longLiterals_cons_wildcard :
    LongLiterals least (.wildcard :: elements) ↔ LongLiterals least elements := by
  simp [LongLiterals]

theorem longLiterals_append :
    LongLiterals least (elements ++ others) ↔
      LongLiterals least elements ∧ LongLiterals least others := by
  simp only [LongLiterals, List.mem_append, or_imp, forall_and]

theorem longLiterals_cons {element : Element} :
    LongLiterals least (element :: elements) ↔
      LongLiterals least [element] ∧ LongLiterals least elements :=
  @longLiterals_append least [element] elements

/-- Literals only grow when they are joined. -/
theorem LongLiterals.attach {element : Element} (long : LongLiterals least (element :: elements)) :
    LongLiterals least (attach element elements) := by
  unfold Element.attach
  split
  · exact (longLiterals_cons_literal.1 long).2
  · simp only [longLiterals_cons_literal, List.length_append] at long ⊢
    exact ⟨by omega, long.2.2⟩
  · exact longLiterals_cons_wildcard.1 long
  · exact long

theorem LongLiterals.tidy (long : LongLiterals least elements) :
    LongLiterals least (tidy elements) := by
  induction elements with
  | nil => exact long
  | cons element elements ih =>
    have split := longLiterals_cons.1 long
    exact (longLiterals_cons.2 ⟨split.1, ih split.2⟩).attach

end Element

namespace Template

theorem longLiterals_ofElements {least : Nat} {elements : List Element}
    (long : Element.LongLiterals least elements) :
    Element.LongLiterals least (ofElements elements).elements := by
  unfold ofElements
  split
  · intro part member
    contradiction
  · exact long.tidy

theorem mem_literals {template : Template} {part : Text} :
    part ∈ template.literals ↔ .literal part ∈ template.elements := by
  rw [literals, List.mem_filterMap]
  constructor
  · rintro ⟨element, member, found⟩
    cases element with
    | literal other =>
      cases found
      exact member
    | wildcard => contradiction
  · intro member
    exact ⟨.literal part, member, rfl⟩

end Template

namespace EditScript

/-- The elements of a script stand for every text that is read off the script in such a way
    that its kept runs are in it. -/
theorem denotes_elements {read : Edit → Text} (keeps : ∀ text, read (.keep text) = text)
    (least : Nat) (script : EditScript) :
    Element.Denotes (script.map (toElement least)) (script.flatMap read) := by
  induction script with
  | nil => exact .nil
  | cons edit script ih =>
    rw [List.map_cons, List.flatMap_cons]
    cases edit with
    | keep run =>
      -- A run that is too short is read by a wildcard, like a change.
      simp only [toElement, keeps]
      split
      · exact .literal run ih
      · exact .wildcard run ih
    | change kind text => exact .wildcard _ ih

/-- The elements of a script stand for both texts it leads between. -/
theorem Leads.denotes {script : EditScript} {first second : Text}
    (leads : Leads script first second) (least : Nat) :
    Element.Denotes (script.map (toElement least)) first ∧
      Element.Denotes (script.map (toElement least)) second := by
  constructor
  · rw [← leads.source_eq]
    exact denotes_elements (fun _ => rfl) least script
  · rw [← leads.target_eq]
    exact denotes_elements (fun _ => rfl) least script

theorem longLiterals_elements (least : Nat) (script : EditScript) :
    Element.LongLiterals least (script.map (toElement least)) := by
  intro part member
  obtain ⟨edit, _, same⟩ := List.mem_map.1 member
  cases edit with
  | keep run =>
    rw [toElement] at same
    split at same
    · next long =>
      cases same
      exact long
    · contradiction
  | change kind text => contradiction

end EditScript

namespace Template

variable {first second : Text} {least : SegmentLength}

/-- What two texts have in common fits both, unless it is nothing. -/
theorem fits_common (nonempty : (common first second least).isEmpty = false) :
    (common first second least).fits first ∧ (common first second least).fits second := by
  have denoted := (EditScript.between_leads first second).denotes least.chars
  exact ⟨(fits_ofElements_iff nonempty).2 denoted.1, (fits_ofElements_iff nonempty).2 denoted.2⟩

theorem longLiterals_common (first second : Text) (least : SegmentLength) :
    Element.LongLiterals least.chars (common first second least).elements :=
  longLiterals_ofElements (EditScript.longLiterals_elements _ _)

end Template

end MailSort
