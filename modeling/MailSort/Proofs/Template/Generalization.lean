import MailSort.Proofs.Alignment.CommonTemplate
import MailSort.Proofs.Template.Realignment
import MailSort.Template.Generalize

/-! # Generalization

Taking a template through a sample gives elements that stand for the sample and for all that
the template stood for (`Element.walk_takes`).  So the template of the walk is always empty or fits
the sample (`Template.allows_walk`), and if only it compiles (`Template.Compiles`), it is what a
template that does not fit is replaced by.

A template is aligned anew only because that of the walk does not compile
(`Template.Generalizes`).  What comes out then fits the sample as well, but it may no longer fit
what the template did fit before.
-/

namespace MailSort

namespace Element

/-- What taking elements through a text gives: the elements found, and the text behind them.
    The elements found stand for the text that was taken, and for all that the elements
    stood for; their literals are long if the literals of the elements are. -/
structure Takes (least : Nat) (elements : List Element) (rest : Text)
    (result : List Element × Text) : Prop where
  taken : ∃ text, rest = text ++ result.2 ∧ Denotes result.1 text
  general : ∀ text, Denotes elements text → Denotes result.1 text
  long : LongLiterals least elements → LongLiterals least result.1

namespace Takes

variable {least : Nat} {elements others found more : List Element} {rest left last : Text}

theorem append (takes : Takes least elements rest (found, left))
    (takesOn : Takes least others left (more, last)) :
    Takes least (elements ++ others) rest (found ++ more, last) where
  taken := by
    obtain ⟨text, same, denoted⟩ := takes.taken
    obtain ⟨text', same', denoted'⟩ := takesOn.taken
    refine ⟨text ++ text', ?_, denoted.append denoted'⟩
    rw [same, same', List.append_assoc]
  general text denoted := by
    obtain ⟨first, second, rfl, before, after⟩ := denoted.split
    exact (takes.general first before).append (takesOn.general second after)
  long long := by
    have split := longLiterals_append.1 long
    exact longLiterals_append.2 ⟨takes.long split.1, takesOn.long split.2⟩

/-- A gap in the place of elements takes any text and stands for all that they stood for. -/
theorem gap (elements : List Element) (taken left : Text) :
    Takes least elements (taken ++ left) ([.wildcard], left) where
  taken := ⟨taken, rfl, by simpa using Denotes.wildcard taken .nil⟩
  general text _ := by simpa using Denotes.wildcard text .nil
  long _ := by simp [LongLiterals]

end Takes

variable {least : Nat} {part rest : Text}

/-- A literal that is found is kept, and skipped text gets a gap. -/
theorem find?_takes {result : List Element × Text} (found : find? part rest = some result) :
    Takes least [.literal part] rest result := by
  obtain ⟨⟨skipped, left⟩, occurs, rfl⟩ := Option.map_eq_some_iff.1 found
  obtain rfl := Text.eq_of_breakAt? occurs
  dsimp only
  split
  · next none =>
    subst none
    refine ⟨⟨part, by simp, ?_⟩, fun _ denoted => denoted, id⟩
    simpa using Denotes.literal part .nil
  · refine ⟨⟨skipped ++ part, rfl, ?_⟩, fun _ denoted => denoted.skip, fun long => ?_⟩
    · simpa using Denotes.wildcard skipped (.literal part .nil)
    · exact longLiterals_cons_wildcard.2 long

theorem findPieces_takes (pieces : List Element) (rest : Text) :
    Takes least pieces rest (findPieces pieces rest) := by
  fun_induction findPieces pieces rest with
  | case1 rest => exact ⟨⟨[], rfl, .nil⟩, fun _ denoted => denoted, id⟩
  | case2 pieces rest found left same ih =>
    rw [same] at ih
    exact (Takes.gap [.wildcard] [] rest).append ih
  | case3 part pieces rest first behind found more left same ih =>
    rw [same] at ih
    exact (find?_takes found).append ih
  | case4 part pieces rest missing found left same ih =>
    rw [same] at ih
    exact (Takes.gap [.literal part] [] rest).append ih

/-- The pieces that a literal shares with a text stand for the literal as well. -/
theorem findShared_takes (part rest : Text) (least : SegmentLength) :
    Takes least.chars [.literal part] rest (findShared part rest least) := by
  unfold findShared
  dsimp only
  split
  · exact Takes.gap [.literal part] [] rest
  · next some =>
    -- The pieces stand for the literal, so what is found in their place does as well.
    have shared := Template.fits_common (Bool.eq_false_iff.2 some)
    have denoted := (Template.fits_iff.1 shared.1).2
    have pieces : Takes least.chars (Template.common part rest least).elements rest _ :=
      findPieces_takes _ rest
    refine ⟨pieces.taken, fun text whole => ?_, fun _ => ?_⟩
    · obtain ⟨behind, rfl, nothing⟩ := denotes_literal.1 whole
      obtain rfl := denotes_nil.1 nothing
      rw [List.append_nil]
      exact pieces.general part denoted
    · exact pieces.long (Template.longLiterals_common part rest least)

/-- The walk takes the whole sample. -/
theorem walk_takes (least : SegmentLength) (elements : List Element) (rest : Text) :
    Takes least.chars elements rest (walk least elements rest, []) := by
  fun_induction walk least elements rest with
  | case1 => exact ⟨⟨[], rfl, .nil⟩, fun _ denoted => denoted, id⟩
  | case2 rest more => simpa using Takes.gap [] rest []
  | case3 elements rest ih => exact (Takes.gap [.wildcard] [] rest).append ih
  | case4 part elements rest found left same ih =>
    -- Whichever search succeeds, the walk goes on behind what it has taken.
    have first : Takes least.chars [.literal part] rest (found, left) := by
      rw [← same]
      cases occurs : find? part rest with
      | some result => exact find?_takes occurs
      | none => exact findShared_takes part rest least
    exact first.append ih

end Element

namespace Template

variable {template : Template} {sample text : Text} {least : SegmentLength}

theorem allows_iff :
    template.allows sample ↔ template.isEmpty = false → template.fits sample := by
  cases empty : template.isEmpty <;> simp [allows, empty]

/-- The walk gives the empty template or one that fits the sample. -/
theorem allows_walk (template : Template) (sample : Text) (least : SegmentLength) :
    (template.walk sample least).allows sample := by
  rw [allows_iff]
  intro nonempty
  obtain ⟨taken, same, denoted⟩ := (Element.walk_takes least template.elements sample).taken
  obtain rfl : sample = taken := by simpa using same
  exact (fits_ofElements_iff nonempty).2 denoted

/-- What the template fits, the template of the walk fits too. -/
theorem fits_walk (nonempty : (template.walk sample least).isEmpty = false)
    (fitted : template.fits text) : (template.walk sample least).fits text :=
  (fits_ofElements_iff nonempty).2
    ((Element.walk_takes least template.elements sample).general text (fits_iff.1 fitted).2)

/-! ## Acceptance checks -/

/-- Whether a template compiles within the standard budget, as those that are made more general
    have to. -/
def Compiles [Compiler] (template : Template) : Prop :=
  template.checkBudget standardBudget = .ok ()

/-- The compiler that is used when no other is chosen compiles every template. -/
theorem compiles (template : Template) : template.Compiles :=
  if_pos (.inr rfl)

section Checks

variable [Compiler] {result : Template}

theorem settles_iff : template.settles sample ↔ template.Compiles ∧ template.allows sample := by
  rw [settles, allows, accepts, Compiles]
  cases empty : template.isEmpty with
  | true => simp [checkBudget, empty]
  | false => cases template.checkBudget standardBudget <;> simp

theorem settles_of_isEmpty (nothing : template.isEmpty) : template.settles sample := by
  rw [settles, nothing, Bool.true_or]

theorem generalize_of_isEmpty (sample : Text) (least : SegmentLength)
    (nothing : template.isEmpty) : template.generalize sample least = template :=
  if_pos (.inr (settles_of_isEmpty nothing))

/-- The template of a walk is settled on just if it compiles. -/
theorem settles_walk_iff :
    (template.walk sample least).settles sample ↔ (template.walk sample least).Compiles := by
  rw [settles_iff, and_iff_left (allows_walk template sample least)]

theorem settles_realign_iff :
    (template.realign sample least).settles sample ↔ (template.realign sample least).Compiles := by
  rw [settles_iff, and_iff_left (allows_iff.2 fun nonempty => (fits_realign_aligned nonempty).2)]

/-- How the template of a generalization comes about: it is the one that was there, that of the
    walk, or, if that one does not compile, the realigned one.  It is given up if neither of the
    two compiles. -/
inductive Generalizes (template : Template) (sample : Text) (least : SegmentLength) :
    Template → Prop where
  | kept (settled : sample = [] ∨ template.settles sample) :
    Generalizes template sample least template
  | walked (unsettled : ¬(sample = [] ∨ template.settles sample))
    (compiled : (template.walk sample least).Compiles) :
    Generalizes template sample least (template.walk sample least)
  | realigned (unsettled : ¬(sample = [] ∨ template.settles sample))
    (failed : ¬(template.walk sample least).Compiles)
    (compiled : (template.realign sample least).Compiles) :
    Generalizes template sample least (template.realign sample least)
  | dropped (unsettled : ¬(sample = [] ∨ template.settles sample))
    (failed : ¬(template.walk sample least).Compiles)
    (failed_again : ¬(template.realign sample least).Compiles) :
    Generalizes template sample least .empty

theorem generalizes (template : Template) (sample : Text) (least : SegmentLength) :
    Generalizes template sample least (template.generalize sample least) := by
  unfold generalize
  dsimp only
  split
  · next settled => exact .kept settled
  · next unsettled =>
    split
    · next walked => exact .walked unsettled (settles_walk_iff.1 walked)
    · next failed =>
      rw [settles_walk_iff] at failed
      split
      · next realigned => exact .realigned unsettled failed (settles_realign_iff.1 realigned)
      · next failed_again => exact .dropped unsettled failed (failed_again ∘ settles_realign_iff.2)

/-- Only a template that says something is ever replaced. -/
theorem isEmpty_of_unsettled (unsettled : ¬(sample = [] ∨ template.settles sample)) :
    template.isEmpty = false :=
  Bool.eq_false_iff.2 fun nothing => unsettled (.inr (settles_of_isEmpty nothing))

namespace Generalizes

variable (made : Generalizes template sample least result)

include made

theorem fits_sample (some : sample ≠ []) (nonempty : result.isEmpty = false) :
    result.fits sample := by
  cases made with
  | kept settled => exact allows_iff.1 (settles_iff.1 (settled.resolve_left some)).2 nonempty
  | walked => exact allows_iff.1 (allows_walk template sample least) nonempty
  | realigned => exact (fits_realign_aligned nonempty).2
  | dropped => contradiction

theorem fits (checked : (template.walk sample least).Compiles)
    (nonempty : result.isEmpty = false) (fitted : template.fits text) : result.fits text := by
  cases made with
  | kept => exact fitted
  | walked => exact fits_walk nonempty fitted
  | realigned _ failed => exact absurd checked failed
  | dropped _ failed => exact absurd checked failed

theorem longLiterals (long : Element.LongLiterals least.chars template.elements) :
    Element.LongLiterals least.chars result.elements := by
  cases made with
  | kept => exact long
  | walked =>
    exact longLiterals_ofElements ((Element.walk_takes least template.elements sample).long long)
  | realigned => exact longLiterals_realign template sample least
  | dropped => exact fun _ member => absurd member List.not_mem_nil

/-- If the checks compile, a template is kept or taken through the sample. -/
theorem eq_of_compiles (some : sample ≠ []) (compiled : template.Compiles)
    (checked : (template.walk sample least).Compiles) :
    result = if template.allows sample then template else template.walk sample least := by
  have settles_iff_allows : template.settles sample ↔ template.allows sample :=
    settles_iff.trans (and_iff_right compiled)
  cases made with
  | kept settled => rw [if_pos (settles_iff_allows.1 (settled.resolve_left some))]
  | walked unsettled => rw [if_neg fun allowed => unsettled (.inr (settles_iff_allows.2 allowed))]
  | realigned _ failed => exact absurd checked failed
  | dropped _ failed => exact absurd checked failed

end Generalizes

/-- Generalizing a template for a sample that is not empty gives the empty template or one
    that fits the sample, and, if the template of the walk compiles, also all that the template did
    fit.  The walk alone sees to that: its template is always empty or fits the sample, so if the
    checks compile, it is what a template that does not fit is replaced by. -/
theorem generalize_consistent (template : Template) {sample : Text} (some : sample ≠ [])
    (least : SegmentLength) :
    ((template.generalize sample least).isEmpty = false →
      (template.generalize sample least).fits sample ∧
        ((template.walk sample least).Compiles →
          ∀ text, template.fits text → (template.generalize sample least).fits text)) ∧
    ((template.walk sample least).isEmpty ∨ (template.walk sample least).fits sample) ∧
    (template.Compiles → (template.walk sample least).Compiles →
      template.generalize sample least =
        if template.allows sample then template else template.walk sample least) := by
  have made := generalizes template sample least
  refine ⟨fun nonempty => ⟨made.fits_sample some nonempty, fun checked _ => ?_⟩, ?_, ?_⟩
  · exact made.fits checked nonempty
  · simpa [allows] using allows_walk template sample least
  · exact made.eq_of_compiles some

end Checks

/-- A literal that the sample interrupts falls apart, and both texts fit. -/
theorem generalize_consistent_interrupted :
    ((ofElements [.literal "abcd".toList]).generalize "ab0cd".toList .shortest).isEmpty = false ∧
      ((ofElements [.literal "abcd".toList]).generalize "ab0cd".toList .shortest).fits
        "ab0cd".toList ∧
      ((ofElements [.literal "abcd".toList]).generalize "ab0cd".toList .shortest).fits
        "abcd".toList := by
  have nonempty :
      ((ofElements [.literal "abcd".toList]).generalize "ab0cd".toList .shortest).isEmpty = false :=
    by decide +kernel
  have fitted : (ofElements [.literal "abcd".toList]).fits "abcd".toList := by decide +kernel
  have some : "ab0cd".toList ≠ [] := by decide
  have consistent :=
    (generalize_consistent (ofElements [.literal "abcd".toList]) some .shortest).1 nonempty
  exact ⟨nonempty, consistent.1, consistent.2 (compiles _) _ fitted⟩

/-- A compiler that has no room for a second gap: the template is aligned anew, and no longer fits
    a text with something in the gap that it had. -/
example :
    let _ : Compiler := ⟨fun template _ => template.gapCount < 2⟩
    let template := ofElements [.literal "ab".toList, .wildcard, .literal "cd".toList]
    let result := template.generalize "abcdx".toList .shortest
    result = ofElements [.literal "abcd".toList, .wildcard] ∧
      template.fits "ab0cd".toList ∧ result.fits "ab0cd".toList = false := by
  decide +kernel

end Template

end MailSort
