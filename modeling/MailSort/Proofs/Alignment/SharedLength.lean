import MailSort.Proofs.Alignment.CommonTemplate

/-! # The length of what two texts share

Bringing elements into normal form joins and drops, but no character of a literal gets lost
(`Element.literalLength_tidy`).  So the literals of the template that two texts have in common
are as long as the runs of their alignment that are long enough, and the template is empty
just when there are no such runs.
-/

namespace MailSort

namespace Element

def literalLength (elements : List Element) : Nat :=
  (elements.filterMap literal?).flatten.length

variable {elements : List Element}

@[simp] theorem literalLength_nil : literalLength [] = 0 := rfl

@[simp] theorem literalLength_cons_literal (part : Text) (elements : List Element) :
    literalLength (.literal part :: elements) = part.length + literalLength elements := by
  simp [literalLength, literal?]

@[simp] theorem literalLength_cons_wildcard (elements : List Element) :
    literalLength (.wildcard :: elements) = literalLength elements :=
  rfl

theorem literalLength_attach (element : Element) (elements : List Element) :
    literalLength (attach element elements) = literalLength (element :: elements) := by
  unfold attach
  split
  · simp
  · simp only [literalLength_cons_literal, List.length_append]
    omega
  · simp
  · rfl

theorem literalLength_cons_congr (element : Element) {others : List Element}
    (same : literalLength elements = literalLength others) :
    literalLength (element :: elements) = literalLength (element :: others) := by
  cases element with
  | literal part => simp [same]
  | wildcard => simpa using same

theorem literalLength_tidy (elements : List Element) :
    literalLength (tidy elements) = literalLength elements := by
  induction elements with
  | nil => rfl
  | cons element elements ih =>
    calc literalLength (attach element (tidy elements))
      _ = literalLength (element :: tidy elements) := literalLength_attach element _
      _ = literalLength (element :: elements) := literalLength_cons_congr element ih

end Element

namespace Template

theorem literalLength_ofElements (elements : List Element) :
    (ofElements elements).literalLength = Element.literalLength elements := by
  rw [← Element.literalLength_tidy]
  unfold ofElements
  split
  · next lone =>
    -- A wildcard that is dropped had no characters.
    rw [lone]
    rfl
  · rfl

theorem literalLength_eq_zero {template : Template} (nothing : template.isEmpty) :
    template.literalLength = 0 := by
  have none : template.elements = [] := List.isEmpty_iff.1 nothing
  simp [literalLength, literalText, literals, none]

end Template

namespace EditScript

@[simp] theorem sharedLength_cons_keep (run : Text) (script : EditScript) (least : Nat) :
    sharedLength (.keep run :: script) least =
      (if least ≤ run.length then run.length else 0) + sharedLength script least := by
  by_cases long : least ≤ run.length <;> simp [sharedLength, kept, long]

@[simp] theorem sharedLength_cons_change (kind : Change) (text : Text) (script : EditScript)
    (least : Nat) : sharedLength (.change kind text :: script) least = sharedLength script least :=
  rfl

/-- Shared runs are parts of both texts. -/
theorem sharedLength_le_target (script : EditScript) (least : Nat) :
    script.sharedLength least ≤ script.target.length := by
  induction script with
  | nil => exact Nat.le_refl 0
  | cons edit script ih =>
    rw [target_cons, List.length_append]
    cases edit with
    | keep run =>
      rw [sharedLength_cons_keep]
      refine Nat.add_le_add ?_ ih
      split
      · exact Nat.le_refl run.length
      · exact Nat.zero_le _
    | change kind text => exact Nat.le_trans ih (Nat.le_add_left ..)

theorem sharedLength_between_le (first second : Text) (least : Nat) :
    (between first second).sharedLength least ≤ second.length := by
  have inside := sharedLength_le_target (between first second) least
  rwa [(between_leads first second).target_eq] at inside

/-- The literals of a script are its kept runs that are long enough. -/
theorem literalLength_elements (least : Nat) (script : EditScript) :
    Element.literalLength (script.map (toElement least)) = script.sharedLength least := by
  induction script with
  | nil => rfl
  | cons edit script ih =>
    rw [List.map_cons]
    cases edit with
    | keep run =>
      rw [sharedLength_cons_keep, toElement]
      split
      · rw [Element.literalLength_cons_literal, ih]
      · rw [Element.literalLength_cons_wildcard, ih, Nat.zero_add]
    | change kind text => exact ih

end EditScript

namespace Template

theorem literalLength_common (first second : Text) (least : SegmentLength) :
    (common first second least).literalLength =
      (EditScript.between first second).sharedLength least.chars :=
  (literalLength_ofElements _).trans (EditScript.literalLength_elements _ _)

/-- What two texts have in common fits both of them, its literals are long enough, and they
    are as long together as the shared runs of the alignment that are long enough.  If it is
    nothing, there are no such runs. -/
theorem common_sound (first second : Text) (least : SegmentLength) :
    ((common first second least).isEmpty = false →
      (common first second least).fits first ∧
      (common first second least).fits second ∧
      (∀ part ∈ (common first second least).literals, least.chars ≤ part.length) ∧
      (common first second least).literalLength =
        (EditScript.between first second).sharedLength least.chars) ∧
    ((common first second least).isEmpty →
      (EditScript.between first second).sharedLength least.chars = 0) := by
  constructor
  · intro nonempty
    obtain ⟨fitsFirst, fitsSecond⟩ := fits_common nonempty
    refine ⟨fitsFirst, fitsSecond, fun part member => ?_, literalLength_common first second least⟩
    exact longLiterals_common first second least part (mem_literals.1 member)
  · intro nothing
    rw [← literalLength_common]
    exact literalLength_eq_zero nothing

/-- The deletions and insertions of the shortest script are interleaved and have to be settled
    first.  Runs of five and of two characters are shared. -/
theorem common_sound_settled :
    ((common "abc=1; abc=2".toList "abc=12; def".toList ⟨2, by decide⟩).isEmpty = false ∧
      (common "abc=1; abc=2".toList "abc=12; def".toList ⟨2, by decide⟩).fits
        "abc=1; abc=2".toList ∧
      (common "abc=1; abc=2".toList "abc=12; def".toList ⟨2, by decide⟩).fits
        "abc=12; def".toList ∧
      (EditScript.between "abc=1; abc=2".toList "abc=12; def".toList).sharedLength 2 = 7) ∧
    (common "abc=1; abc=2".toList "abc=12; def".toList ⟨6, by decide⟩).isEmpty ∧
      (EditScript.between "abc=1; abc=2".toList "abc=12; def".toList).sharedLength 6 = 0 := by
  have short : (common "abc=1; abc=2".toList "abc=12; def".toList ⟨2, by decide⟩).isEmpty = false :=
    by decide +kernel
  have long : (common "abc=1; abc=2".toList "abc=12; def".toList ⟨6, by decide⟩).isEmpty :=
    by decide +kernel
  obtain ⟨fitsFirst, fitsSecond, -, length⟩ := (common_sound _ _ _).1 short
  refine ⟨⟨short, fitsFirst, fitsSecond, ?_⟩, long, (common_sound _ _ _).2 long⟩
  rw [← length]
  decide +kernel

end Template

end MailSort
