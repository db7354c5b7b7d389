import MailSort.Proofs.Alignment.Cutting
import MailSort.Proofs.Alignment.SharedLength
import MailSort.Proofs.Template.NormalForm

/-! # Reading alignments more coarsely

One alignment can be read at every least length.  The literals of a template are the kept runs that
are long enough, since there is a change between any two of them (`EditScript.literals_template`).
With a greater least length fewer runs are literals, and a wildcard reads what a run in its place
would have read (`EditScript.denotes_of_coarser`).
-/

namespace MailSort

namespace EditScript

variable {script : EditScript} {text : Text} {least more : Nat}

theorem RunsApart.literalsApart (apart : RunsApart script) (pos : 0 < least) :
    Element.LiteralsApart (script.map (toElement least)) := by
  induction script with
  | nil => trivial
  | cons edit rest ih =>
    rw [List.map_cons]
    obtain open_here | ⟨run, rfl, long, read⟩ := toElement_eq least edit
    · rw [open_here]
      exact ih apart.tail
    · rw [read]
      refine ⟨List.ne_nil_of_length_pos (by omega), fun other after => ?_, ih apart.tail⟩
      cases rest with
      | nil => exact (List.cons_ne_nil _ _).symm
      | cons next rest =>
        -- What follows a run is a change, which is read as a wildcard.
        obtain ⟨kind, text, _, same⟩ := apart.change_after (List.cons_ne_nil next rest)
        rw [same]
        exact fun literal => nomatch literal

/-- The literals of a script are its kept runs that are long enough. -/
theorem literals_elements (least : Nat) (script : EditScript) :
    (script.map (toElement least)).filterMap Element.literal? =
      script.kept.filter fun run => least ≤ run.length := by
  induction script with
  | nil => rfl
  | cons edit script ih =>
    cases edit with
    | keep run =>
      have first : kept (.keep run :: script) = run :: kept script := rfl
      rw [List.map_cons, toElement, first]
      by_cases long : least ≤ run.length
      · rw [if_pos long, Element.literals_cons_literal, ih,
          List.filter_cons_of_pos (by simpa using long)]
      · rw [if_neg long, Element.literals_cons_wildcard, ih,
          List.filter_cons_of_neg (by simpa using long)]
    | change kind text => exact ih

theorem literals_template (apart : RunsApart script) (least : SegmentLength) :
    (script.template least).literals = script.kept.filter fun run => least.chars ≤ run.length := by
  have two := least.two_le
  rw [template, Template.literals_ofElements (apart.literalsApart (by omega)), literals_elements]

theorem sharedLength_of_coarser (script : EditScript) (le : least ≤ more) :
    script.sharedLength more ≤ script.sharedLength least := by
  induction script with
  | nil => exact Nat.le_refl 0
  | cons edit script ih =>
    cases edit with
    | keep run =>
      rw [sharedLength_cons_keep, sharedLength_cons_keep]
      refine Nat.add_le_add ?_ ih
      split
      · next long => exact Nat.le_of_eq (if_pos (Nat.le_trans le long)).symm
      · exact Nat.zero_le _
    | change kind text => exact ih

/-- A run that is no literal any more is read by a wildcard. -/
theorem denotes_of_coarser (le : least ≤ more)
    (denoted : Element.Denotes (script.map (toElement least)) text) :
    Element.Denotes (script.map (toElement more)) text := by
  induction script generalizing text with
  | nil => exact denoted
  | cons edit script ih =>
    rw [List.map_cons] at denoted ⊢
    obtain open_more | ⟨run, rfl, long, read_more⟩ := toElement_eq more edit
    · rw [open_more]
      -- Whatever stood here before took some text.
      have here : Element.Denotes ([toElement least edit] ++ script.map (toElement least)) text :=
        denoted
      obtain ⟨gap, rest, rfl, -, behind⟩ := here.split
      exact .wildcard gap (ih behind)
    · rw [read_more]
      rw [toElement, if_pos (Nat.le_trans le long)] at denoted
      obtain ⟨rest, rfl, behind⟩ := Element.denotes_literal.1 denoted
      exact .literal run (ih behind)

end EditScript

namespace Template

theorem literals_common (first second : Text) (least : SegmentLength) :
    (common first second least).literals =
      (EditScript.between first second).kept.filter fun run => least.chars ≤ run.length :=
  EditScript.literals_template (EditScript.runsApart_joined _) least

/-- With a greater least length two texts have less in common: fewer characters are in shared runs,
    the literals are those that are still long enough, and unless nothing is left, the template
    fits all that it did fit. -/
theorem common_coarser (first second : Text) {least more : SegmentLength}
    (le : least.chars ≤ more.chars) :
    (EditScript.between first second).sharedLength more.chars ≤
        (EditScript.between first second).sharedLength least.chars ∧
      (common first second more).literals =
        (common first second least).literals.filter (fun part => more.chars ≤ part.length) ∧
      ((common first second more).isEmpty = false →
        ∀ text, (common first second least).fits text → (common first second more).fits text) := by
  refine ⟨EditScript.sharedLength_of_coarser _ le, ?_, fun nonempty text fitted => ?_⟩
  · rw [literals_common, literals_common, List.filter_filter]
    refine List.filter_congr fun run _ => ?_
    -- What is long enough for the greater length is so for the other one.
    rw [Bool.eq_iff_iff, Bool.and_eq_true, decide_eq_true_iff, decide_eq_true_iff]
    omega
  · have some := (fits_iff.1 fitted).1
    have denoted := (fits_ofElements_iff some).1 fitted
    exact (fits_ofElements_iff nonempty).2 (EditScript.denotes_of_coarser le denoted)

/-- Two runs are shared, and the second one is too short for the greater length. -/
theorem common_coarser_without_last_run :
    let first := "abcd1xy".toList
    let second := "abcd22xy".toList
    (common first second ⟨2, by decide⟩).literals = ["abcd".toList, "xy".toList] ∧
      (EditScript.between first second).sharedLength 3 ≤
        (EditScript.between first second).sharedLength 2 ∧
      (common first second ⟨3, by decide⟩).literals = ["abcd".toList] ∧
      (common first second ⟨2, by decide⟩).fits "abcd-xy".toList ∧
      (common first second ⟨3, by decide⟩).fits "abcd-xy".toList := by
  intro first second
  have literals : (common first second ⟨2, by decide⟩).literals = ["abcd".toList, "xy".toList] := by
    decide +kernel
  have nonempty : (common first second ⟨3, by decide⟩).isEmpty = false := by decide +kernel
  have fitted : (common first second ⟨2, by decide⟩).fits "abcd-xy".toList := by decide +kernel
  obtain ⟨fewer, longer, general⟩ :=
    @common_coarser first second ⟨2, by decide⟩ ⟨3, by decide⟩ (by decide)
  refine ⟨literals, fewer, ?_, fitted, general nonempty _ fitted⟩
  rw [longer, literals]
  decide

end Template

end MailSort
