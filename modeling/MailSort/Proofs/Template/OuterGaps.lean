import MailSort.Proofs.Alignment.SharedStart
import MailSort.Proofs.Template.Generalization
import MailSort.Proofs.Template.Inclusion
import MailSort.Proofs.Template.Retention

/-! # Needless outer gaps

When a template is generalized it may gain a wildcard at either end.  Such a wildcard is needless if
the template without it still fits the sample and all that the old template did fit
(`Template.Covers`).  A template without its first wildcard fits those of its texts that begin with
its first literal, so the wildcard is needless just if the sample and the old template both begin
with that literal (`Template.covers_withoutFirst_iff`); the same holds at the end
(`Template.covers_withoutLast_iff`).  What a sample shares with the beginning of a template is kept
if it is long enough, whether the template is taken through the sample or aligned with it anew.  So
a needless wildcard at the beginning has a short literal behind it
(`Template.Generalizes.length_lt`).
-/

namespace MailSort

namespace Text

variable {part start stop rest rest' : Text} {c d : Char}

/-- What two texts begin with that differ behind a common start is part of the start. -/
theorem prefix_of_differing (differ : c ≠ d) (begins : part <+: start ++ c :: rest)
    (begins' : part <+: start ++ d :: rest') : part <+: start := by
  refine List.prefix_of_prefix_length_le begins (List.prefix_append start _) ?_
  by_contra short
  have next := head?_of_prefix begins (by omega)
  have next' := head?_of_prefix begins' (by omega)
  exact differ (Option.some.inj (next.trans next'.symm))

/-- What two texts end with that differ before a common end is part of the end. -/
theorem suffix_of_differing (differ : c ≠ d) (ends : part <:+ rest ++ c :: stop)
    (ends' : part <:+ rest' ++ d :: stop) : part <:+ stop := by
  rw [← List.reverse_prefix] at ends ends' ⊢
  simp only [List.reverse_append, List.reverse_cons, List.append_assoc, List.singleton_append]
    at ends ends'
  exact prefix_of_differing differ ends ends'

end Text

namespace Element

variable {elements before after rest : List Element} {part text : Text}

/-- Without the gap before its first literal, elements stand for those of their texts that begin
    with the literal: the next gap takes in what that leaves over. -/
theorem denotes_without_opening
    (denoted : Denotes (.wildcard :: .literal part :: .wildcard :: rest) text) :
    Denotes (.literal part :: .wildcard :: rest) text ↔ part <+: text := by
  constructor
  · intro closed
    obtain ⟨behind, rfl, -⟩ := denotes_literal.1 closed
    exact List.prefix_append part behind
  · rintro ⟨behind, rfl⟩
    obtain ⟨gap, _, same, opened⟩ := denotes_wildcard.1 denoted
    obtain ⟨_, rfl, amid⟩ := denotes_literal.1 opened
    obtain ⟨gap', last, rfl, inner⟩ := denotes_wildcard.1 amid
    refine .literal part ?_
    have lengths := congrArg List.length same
    simp only [List.length_append] at lengths
    have inBehind : last <:+ behind := by
      have ends : last <:+ part ++ behind := by
        rw [same, ← List.append_assoc, ← List.append_assoc]
        exact List.suffix_append _ last
      exact List.suffix_of_suffix_length_le ends (List.suffix_append part behind) (by omega)
    obtain ⟨more, rfl⟩ := inBehind
    exact .wildcard more inner

/-- Without the gap behind its last literal, elements stand for those of their texts that end with
    the literal. -/
theorem denotes_without_closing
    (denoted : Denotes (rest ++ [.wildcard, .literal part, .wildcard]) text) :
    Denotes (rest ++ [.wildcard, .literal part]) text ↔ part <:+ text := by
  constructor
  · intro closed
    obtain ⟨first, _, rfl, -, ends⟩ := closed.split
    obtain ⟨gap, _, rfl, literal⟩ := denotes_wildcard.1 ends
    obtain ⟨_, rfl, nothing⟩ := denotes_literal.1 literal
    obtain rfl := denotes_nil.1 nothing
    exact ⟨first ++ gap, by simp⟩
  · rintro ⟨ahead, rfl⟩
    obtain ⟨first, _, same, inner, ends⟩ := denoted.split
    obtain ⟨gap, _, rfl, literal⟩ := denotes_wildcard.1 ends
    obtain ⟨last, rfl, -⟩ := denotes_literal.1 literal
    have lengths := congrArg List.length same
    simp only [List.length_append] at lengths
    have inAhead : first <+: ahead := by
      have begins : first <+: ahead ++ part := by
        rw [same]
        exact List.prefix_append first _
      exact List.prefix_of_prefix_length_le begins (List.prefix_append ahead part) (by omega)
    obtain ⟨more, rfl⟩ := inAhead
    have closing : Denotes [.wildcard, .literal part] (more ++ part) := by
      simpa using Denotes.wildcard more (.literal part .nil)
    rw [List.append_assoc]
    exact inner.append closing

end Element

namespace Template

variable {template result : Template} {sample text : Text} {least : SegmentLength}

def withoutFirst (template : Template) : Template :=
  .ofElements template.elements.tail

def withoutLast (template : Template) : Template :=
  .ofElements template.elements.dropLast

/-- A template can stand for a sample and for all that another template fits. -/
structure Covers (result template : Template) (sample : Text) : Prop where
  fits_sample : result.fits sample
  fits_all : ∀ text, template.fits text → result.fits text

/-! ## Without an outer gap -/

theorem fits_withoutFirst_iff {part : Text} {rest : List Element}
    (elements : template.elements = .wildcard :: .literal part :: rest) :
    template.withoutFirst.fits text ↔ Element.Denotes (.literal part :: rest) text := by
  have some : part ≠ [] := template.literal_ne_nil (by simp [elements])
  rw [withoutFirst, elements, List.tail_cons]
  exact fits_ofElements_iff (isEmpty_ofElements List.mem_cons_self some)

theorem fits_withoutLast_iff {part : Text} {before : List Element}
    (elements : template.elements = before ++ [.literal part, .wildcard]) :
    template.withoutLast.fits text ↔ Element.Denotes (before ++ [.literal part]) text := by
  have some : part ≠ [] := template.literal_ne_nil (by simp [elements])
  have dropped : template.elements.dropLast = before ++ [.literal part] := by
    rw [elements, List.append_cons, List.dropLast_append_of_ne_nil (by simp)]
    simp
  rw [withoutLast, dropped]
  exact fits_ofElements_iff (isEmpty_ofElements (by simp) some)

/-- If a template that fits nothing but one text stands for a sample and another template, then that
    one is the sample. -/
theorem Covers.elements_eq_of_single (covers : result.Covers template sample)
    (nonempty : template.isEmpty = false) (part : Text)
    (single : ∀ text, result.fits text → text = part) :
    template.elements = [.literal sample] := by
  have marked (mark : Char) : Element.markGaps mark template.elements = part :=
    single _ (covers.fits_all _
      (fits_iff.2 ⟨nonempty, Element.denotes_markGaps mark template.elements⟩))
  -- Two marks in a gap would make two texts.
  have gapless : .wildcard ∉ template.elements :=
    Element.not_mem_of_markGaps_eq (by decide) ((marked 'a').trans (marked 'b').symm)
  obtain ⟨only, elements⟩ := exists_elements_eq_literal nonempty gapless
  have same := marked 'a'
  rw [elements, ← single sample covers.fits_sample] at same
  rw [elements, ← same]
  simp [Element.markGaps, Element.literal?]

/-- A template can stand for another one if it fits the text with the marks. -/
theorem covers_of_marked (mark : Char) (nonempty : template.isEmpty = false)
    (fresh : mark ∉ result.literalText) (fitted : result.fits sample)
    (marked : result.fits (Element.markGaps mark template.elements)) :
    result.Covers template sample := by
  refine ⟨fitted, (includes_iff nonempty fun part member inside => fresh ?_).2 marked⟩
  exact List.mem_flatten.2 ⟨part, mem_literals.2 member, inside⟩

/-- All texts that a template fits begin with a text just if its first literal does. -/
theorem forall_fits_prefix_iff {part first : Text} {rest : List Element}
    (elements : template.elements = .literal first :: rest) :
    (∀ text, template.fits text → part <+: text) ↔ part <+: first := by
  have nonempty := isEmpty_of_mem (elements ▸ List.mem_cons_self)
  constructor
  · intro begins
    have marked (mark : Char) : part <+: Element.markGaps mark template.elements :=
      begins _ (fits_iff.2 ⟨nonempty, Element.denotes_markGaps mark template.elements⟩)
    have alternating := template.normal.alternating
    rw [elements] at marked alternating
    obtain rfl | ⟨more, rfl⟩ := alternating.behind_literal
    · simpa [Element.markGaps, Element.literal?] using marked 'a'
    · -- Two marks in the first gap tell that nothing of it is in the part.
      have differ : 'a' ≠ 'b' := by decide
      exact Text.prefix_of_differing differ (marked 'a') (marked 'b')
  · intro begins text fitted
    have denoted := (fits_iff.1 fitted).2
    rw [elements] at denoted
    obtain ⟨behind, rfl, -⟩ := Element.denotes_literal.1 denoted
    exact begins.trans (List.prefix_append first behind)

/-- All texts that a template fits end with a text just if its last literal does. -/
theorem forall_fits_suffix_iff {part last : Text} {before : List Element}
    (elements : template.elements = before ++ [.literal last]) :
    (∀ text, template.fits text → part <:+ text) ↔ part <:+ last := by
  have nonempty := isEmpty_of_mem (elements ▸ List.mem_concat_self)
  constructor
  · intro ends
    have marked (mark : Char) : part <:+ Element.markGaps mark template.elements :=
      ends _ (fits_iff.2 ⟨nonempty, Element.denotes_markGaps mark template.elements⟩)
    have alternating := template.normal.alternating
    rw [elements] at marked alternating
    obtain rfl | ⟨more, rfl⟩ := alternating.before_literal
    · simpa [Element.markGaps, Element.literal?] using marked 'a'
    · have differ : 'a' ≠ 'b' := by decide
      have marked (mark : Char) : part <:+ Element.markGaps mark more ++ mark :: last := by
        simpa [Element.markGaps, Element.literal?] using marked mark
      exact Text.suffix_of_differing differ (marked 'a') (marked 'b')
  · intro ends text fitted
    have denoted := (fits_iff.1 fitted).2
    rw [elements] at denoted
    obtain ⟨ahead, _, rfl, -, literal⟩ := denoted.split
    obtain rfl := Element.denotes_single_literal.1 literal
    exact ends.trans (List.suffix_append ahead _)

/-- What a template without one of its elements fits may be told from the texts that it fits
    itself. -/
theorem Covers.without_iff (covers : result.Covers template sample) (part : Template)
    (touches : Text → Prop)
    (fits_iff : ∀ {text}, result.fits text → (part.fits text ↔ touches text)) :
    part.Covers template sample ↔
      touches sample ∧ ∀ text, template.fits text → touches text := by
  constructor
  · rintro ⟨fits_sample, fits_all⟩
    exact ⟨(fits_iff covers.fits_sample).1 fits_sample, fun text fitted =>
      (fits_iff (covers.fits_all text fitted)).1 (fits_all text fitted)⟩
  · rintro ⟨touched, all⟩
    exact ⟨(fits_iff covers.fits_sample).2 touched, fun text fitted =>
      (fits_iff (covers.fits_all text fitted)).2 (all text fitted)⟩

theorem Covers.mono {wider : Template} (covers : result.Covers template sample)
    (fits : ∀ {text}, result.fits text → wider.fits text) : wider.Covers template sample :=
  ⟨fits covers.fits_sample, fun text fitted => fits (covers.fits_all text fitted)⟩

/-- A wildcard need not take in anything, so the template fits all that it fits without it. -/
theorem fits_of_withoutFirst (opens : result.startsOpen) (fitted : result.withoutFirst.fits text) :
    result.fits text := by
  obtain ⟨part, rest, elements⟩ := exists_elements_of_opens opens
  have denoted := (fits_withoutFirst_iff elements).1 fitted
  refine fits_iff.2 ⟨isEmpty_of_mem (elements ▸ List.mem_cons_self), ?_⟩
  rw [elements]
  exact .wildcard [] denoted

theorem fits_of_withoutLast (closes : result.endsOpen) (fitted : result.withoutLast.fits text) :
    result.fits text := by
  obtain ⟨before, part, elements⟩ := exists_elements_of_closes closes
  have denoted := (fits_withoutLast_iff elements).1 fitted
  refine fits_iff.2 ⟨isEmpty_eq_false_iff.2 (by simp [elements]), ?_⟩
  simpa [elements] using denoted.append (.wildcard [] .nil)

/-- A wildcard that a template begins with is needless just if there is another one, and if the
    sample and the old template both begin with the literal behind it. -/
theorem covers_withoutFirst_iff (nonempty : template.isEmpty = false)
    (other : template.elements ≠ [.literal sample]) (covers : result.Covers template sample)
    (opens : result.startsOpen) (closed : template.startsOpen = false) :
    result.withoutFirst.Covers template sample ↔
      2 ≤ result.gapCount ∧ ∃ part first, result.literals.head? = some part ∧
        template.literals.head? = some first ∧ part <+: sample ∧ part <+: first := by
  obtain ⟨part, rest, elements⟩ := exists_elements_of_opens opens
  obtain ⟨first, behind, begins⟩ := exists_elements_of_not_opens nonempty closed
  have alternating := result.normal.alternating
  rw [elements] at alternating
  obtain rfl | ⟨more, rfl⟩ := alternating.tail.behind_literal
  · have few : result.gapCount = 1 := by simp [gapCount, elements, Element.isWildcard]
    constructor
    · intro without
      -- A single literal does not fit both the sample and the texts of the old template.
      refine absurd (without.elements_eq_of_single nonempty part fun text fitted => ?_) other
      exact Element.denotes_single_literal.1 ((fits_withoutFirst_iff elements).1 fitted)
    · rintro ⟨many, -⟩
      omega
  · have many : 2 ≤ result.gapCount := by simp [gapCount, elements]
    have without := covers.without_iff result.withoutFirst (part <+: ·) fun fitted => by
      have denoted := (fits_iff.1 fitted).2
      rw [elements] at denoted
      rw [fits_withoutFirst_iff elements, Element.denotes_without_opening denoted]
    rw [without, forall_fits_prefix_iff begins]
    simp [many, literals, elements, begins, Element.literal?]

/-- A wildcard that a template ends with is needless just if there is another one, and if the
    sample and the old template both end with the literal before it. -/
theorem covers_withoutLast_iff (nonempty : template.isEmpty = false)
    (other : template.elements ≠ [.literal sample]) (covers : result.Covers template sample)
    (closes : result.endsOpen) (closed : template.endsOpen = false) :
    result.withoutLast.Covers template sample ↔
      2 ≤ result.gapCount ∧ ∃ part last, result.literals.getLast? = some part ∧
        template.literals.getLast? = some last ∧ part <:+ sample ∧ part <:+ last := by
  obtain ⟨before, part, elements⟩ := exists_elements_of_closes closes
  obtain ⟨ahead, last, ends⟩ := exists_elements_of_not_closes nonempty closed
  have alternating := result.normal.alternating
  rw [elements] at alternating
  obtain rfl | ⟨more, rfl⟩ := alternating.before_literal
  · have few : result.gapCount = 1 := by simp [gapCount, elements, Element.isWildcard]
    constructor
    · intro without
      refine absurd (without.elements_eq_of_single nonempty part fun text fitted => ?_) other
      exact Element.denotes_single_literal.1 ((fits_withoutLast_iff elements).1 fitted)
    · rintro ⟨many, -⟩
      omega
  · have many : 2 ≤ result.gapCount := by simp [gapCount, elements, Element.isWildcard]
    have without := covers.without_iff result.withoutLast (part <:+ ·) fun fitted => by
      have denoted := (fits_iff.1 fitted).2
      rw [elements, List.append_assoc] at denoted
      rw [fits_withoutLast_iff elements, List.append_assoc]
      exact Element.denotes_without_closing denoted
    rw [without, forall_fits_suffix_iff ends]
    simp [many, literals, elements, ends, Element.literal?]

/-! ## Gaps that a template gains -/

/-- The first literal stays the first one if it occurs, and where the sample begins with it there is
    no gap before it. -/
theorem walk_of_occurs {first : Text} {rest : List Element}
    (elements : template.elements = .literal first :: rest) {skipped after : Text}
    (found : Text.breakAt? first sample = some (skipped, after)) (least : SegmentLength) :
    (template.walk sample least).literals.head? = some first ∧
      (first <+: sample → (template.walk sample least).startsOpen = false) := by
  have alternating := template.normal.alternating
  have some : first ≠ [] := template.literal_ne_nil (by simp [elements])
  rw [elements] at alternating
  have walked : template.walk sample least =
      ofElements (Element.skipping skipped ++ .literal first :: Element.walk least rest after) := by
    rw [walk, elements, Element.walk_literal least found]
  have alone : ∀ other more, Element.walk least rest after ≠ .literal other :: more := by
    obtain rfl | ⟨more, rfl⟩ := alternating.behind_literal
    · exact (Element.optionalGap_skipping after).ne_literal
    · simp [Element.walk]
  have gap := Element.optionalGap_skipping skipped
  have tidied := gap.tidy_literal some alone
  rw [walked]
  constructor
  · have member : .literal first ∈ Element.tidy (Element.skipping skipped ++
        .literal first :: Element.walk least rest after) := by
      rw [tidied]
      simp
    rw [literals, elements_ofElements_of_mem member, tidied, List.filterMap_append, gap.literals]
    rfl
  · rintro ⟨behind, rfl⟩
    rw [Text.breakAt?_append] at found
    cases found
    exact not_startsOpen_of_literal some

/-- What a literal that does not occur shares with the beginning of a sample becomes the first
    literal. -/
theorem not_startsOpen_walk_of_shared {first : Text} {rest : List Element}
    (elements : template.elements = .literal first :: rest)
    (absent : Text.breakAt? first sample = none)
    (enough : least.chars ≤ (Text.splitPrefix first sample).1.length) :
    (template.walk sample least).startsOpen = false := by
  have two := least.two_le
  have head := head?_common enough
  obtain ⟨behind, whole⟩ := (Text.sharedStart_splitPrefix first sample).prefix_second
  generalize (Text.splitPrefix first sample).1 = start at enough head whole
  obtain ⟨pieces, shared⟩ := List.head?_eq_some_iff.1 head
  have some : start ≠ [] := List.ne_nil_of_length_pos (by omega)
  have found : Element.find? start sample = .some ([.literal start], behind) := by
    rw [Element.find?, ← whole, Text.breakAt?_append]
    rfl
  have nonempty := isEmpty_of_mem (shared ▸ List.mem_cons_self)
  have walked : template.walk sample least =
      ofElements (.literal start :: ((Element.findPieces pieces behind).1 ++
        Element.walk least rest (Element.findPieces pieces behind).2)) := by
    rw [walk, elements, Element.walk, Element.find?, absent]
    simp [Element.findShared, nonempty, shared, Element.findPieces, found]
  rw [walked]
  exact not_startsOpen_of_literal some

/-- A wildcard that a walk puts at the beginning is needless only if the literal behind it is too
    short to be kept as a shared beginning. -/
theorem length_lt_of_opens_walk {part first : Text} (nonempty : template.isEmpty = false)
    (closed : template.startsOpen = false) (opens : (template.walk sample least).startsOpen)
    (head : (template.walk sample least).literals.head? = some part)
    (head' : template.literals.head? = some first) (inSample : part <+: sample)
    (inFirst : part <+: first) : part.length < least.chars := by
  obtain ⟨_, rest, elements⟩ := exists_elements_of_not_opens nonempty closed
  obtain rfl : first = _ := by simpa [literals, elements, Element.literal?] using head'.symm
  by_contra long
  have begins : (template.walk sample least).startsOpen = false := by
    cases occurs : Text.breakAt? first sample with
    | some found =>
      obtain ⟨same, unopened⟩ := walk_of_occurs elements occurs least
      rw [head] at same
      cases same
      exact unopened inSample
    | none =>
      have shared := Text.sharedStart_splitPrefix first sample
      have inShared := (shared.longest part inFirst inSample).length_le
      exact not_startsOpen_walk_of_shared elements occurs (by omega)
  rw [begins] at opens
  contradiction

/-- What a sample shares with the beginning of the joined literals stays at the beginning when they
    are aligned with it. -/
theorem not_startsOpen_realign (closed : template.startsOpen = false)
    (enough : least.chars ≤ (Text.splitPrefix template.literalText sample).1.length) :
    (template.realign sample least).startsOpen = false := by
  have two := least.two_le
  have head := head?_common enough
  generalize (Text.splitPrefix template.literalText sample).1 = start at enough head
  obtain ⟨pieces, shared⟩ := List.head?_eq_some_iff.1 head
  have some : start ≠ [] := List.ne_nil_of_length_pos (by omega)
  have nonempty := isEmpty_of_mem (shared ▸ List.mem_cons_self)
  rw [realign, nonempty, if_neg Bool.false_ne_true, closed, shared]
  exact not_startsOpen_of_literal some

/-- Aligning the joined literals anew puts no needless wildcard at the beginning. -/
theorem length_lt_of_opens_realign {part first : Text} (closed : template.startsOpen = false)
    (opens : (template.realign sample least).startsOpen)
    (head' : template.literals.head? = some first) (inSample : part <+: sample)
    (inFirst : part <+: first) : part.length < least.chars := by
  by_contra long
  obtain ⟨more, literals⟩ := List.head?_eq_some_iff.1 head'
  have inJoined : part <+: template.literalText := by
    rw [literalText, literals, List.flatten_cons]
    exact inFirst.trans (List.prefix_append first _)
  have shared := Text.sharedStart_splitPrefix template.literalText sample
  have inShared := (shared.longest part inJoined inSample).length_le
  rw [not_startsOpen_realign closed (by omega)] at opens
  contradiction

theorem elements_walk_self (single : template.elements = [.literal sample])
    (least : SegmentLength) : (template.walk sample least).elements = [.literal sample] := by
  have some : sample ≠ [] := template.literal_ne_nil (by simp [single])
  have found : Text.breakAt? sample sample = .some ([], []) := by
    simpa using Text.breakAt?_append sample []
  rw [walk, single, Element.walk_literal least found, Element.walk_nil]
  exact elements_ofElements_literal some

theorem elements_realign_self (single : template.elements = [.literal sample])
    (nonempty : (template.realign sample least).isEmpty = false) :
    (template.realign sample least).elements = [.literal sample] := by
  have some : sample ≠ [] := template.literal_ne_nil (by simp [single])
  have joined : template.literalText = sample := by
    simp [literalText, literals, single, Element.literal?]
  -- Something is left only if the sample is long enough to be a literal.
  obtain ⟨part, member⟩ := exists_literal nonempty
  have long := longLiterals_realign template sample least part member
  have fitted := (fits_iff.1 (fits_realign_aligned nonempty).2).2
  have shared := elements_common_self (long.trans (fitted.infix_of_mem member).length_le)
  have kept := isEmpty_of_mem (shared ▸ List.mem_cons_self)
  rw [realign, joined, kept, if_neg Bool.false_ne_true, shared]
  simpa [startsOpen, endsOpen, single, Element.isWildcard] using elements_ofElements_literal some

section Generalizing

variable [Compiler]

namespace Generalizes

variable (made : Generalizes template sample least result)

include made

theorem covers (checked : (template.walk sample least).Compiles) (some : sample ≠ [])
    (nonempty : result.isEmpty = false) : result.Covers template sample :=
  ⟨made.fits_sample some nonempty, fun _ => made.fits checked nonempty⟩

/-- A template that is the sample is given up or stays that way. -/
theorem elements_eq_of_self (single : template.elements = [.literal sample])
    (nonempty : result.isEmpty = false) : result.elements = [.literal sample] := by
  cases made with
  | kept => exact single
  | walked => exact elements_walk_self single least
  | realigned => exact elements_realign_self single nonempty
  | dropped => contradiction

/-- Only a template that says something is replaced, and by another one only if it is not the
    sample. -/
theorem of_ne (nonempty : result.isEmpty = false) (differ : result.elements ≠ template.elements) :
    template.isEmpty = false ∧ template.elements ≠ [.literal sample] := by
  constructor
  · cases made with
    | kept => exact absurd rfl differ
    | walked unsettled | realigned unsettled | dropped unsettled =>
      exact isEmpty_of_unsettled unsettled
  · intro single
    exact differ ((made.elements_eq_of_self single nonempty).trans single.symm)

/-- A wildcard that a template gains at the beginning is needless only if the literal behind it is
    shorter than the least length, which no literal is that comes from aligning anew. -/
theorem length_lt {part first : Text} (nonempty : template.isEmpty = false)
    (opens : result.startsOpen) (closed : template.startsOpen = false)
    (head : result.literals.head? = some part) (head' : template.literals.head? = some first)
    (inSample : part <+: sample) (inFirst : part <+: first) : part.length < least.chars := by
  cases made with
  | kept =>
    rw [closed] at opens
    contradiction
  | walked => exact length_lt_of_opens_walk nonempty closed opens head head' inSample inFirst
  | realigned => exact length_lt_of_opens_realign closed opens head' inSample inFirst
  | dropped => contradiction

/-- A template with a short literal that was not there comes from the walk. -/
theorem covers_of_short {part : Text} (some : sample ≠ []) (nonempty : result.isEmpty = false)
    (opens : result.startsOpen) (closed : template.startsOpen = false)
    (head : result.literals.head? = .some part) (short : part.length < least.chars) :
    result.Covers template sample := by
  have fits_sample := made.fits_sample some nonempty
  cases made with
  | kept =>
    rw [closed] at opens
    contradiction
  | walked => exact ⟨fits_sample, fun text => fits_walk nonempty⟩
  | realigned =>
    have member := mem_literals.1 (List.mem_of_head? head)
    have long := longLiterals_realign template sample least part member
    omega
  | dropped => contradiction

end Generalizes

/-- A wildcard that a template gains at the beginning when it is generalized is needless just if
    there is another one and the literal behind it, a short one, begins both the sample and the old
    template. -/
theorem Generalizes.covers_withoutFirst_iff (made : Generalizes template sample least result)
    (some : sample ≠ []) (left : result.isEmpty = false) (opens : result.startsOpen)
    (closed : template.startsOpen = false) :
    result.withoutFirst.Covers template sample ↔
      2 ≤ result.gapCount ∧ ∃ part first, result.literals.head? = .some part ∧
        template.literals.head? = .some first ∧ part <+: sample ∧ part <+: first ∧
        part.length < least.chars := by
  have differ : result.elements ≠ template.elements := by
    intro same
    rw [startsOpen, same, ← startsOpen, closed] at opens
    contradiction
  obtain ⟨nonempty, other⟩ := made.of_ne left differ
  constructor
  · intro without
    have covers := without.mono (fits_of_withoutFirst opens)
    obtain ⟨many, part, first, head, head', inSample, inFirst⟩ :=
      (Template.covers_withoutFirst_iff nonempty other covers opens closed).1 without
    have short := made.length_lt nonempty opens closed head head' inSample inFirst
    exact ⟨many, part, first, head, head', inSample, inFirst, short⟩
  · rintro ⟨many, part, first, head, head', inSample, inFirst, short⟩
    -- Whether the walk's template has compiled can be told from the short literal.
    have covers := made.covers_of_short some left opens closed head short
    exact (Template.covers_withoutFirst_iff nonempty other covers opens closed).2
      ⟨many, part, first, head, head', inSample, inFirst⟩

/-- A wildcard that a template gains at the end when it is generalized is needless just if the
    template covers the old one at all, and there is another wildcard and the literal before it ends
    both the sample and the old template. -/
theorem Generalizes.covers_withoutLast_iff (made : Generalizes template sample least result)
    (left : result.isEmpty = false) (closes : result.endsOpen)
    (closed : template.endsOpen = false) :
    result.withoutLast.Covers template sample ↔
      result.Covers template sample ∧ 2 ≤ result.gapCount ∧
        ∃ part last, result.literals.getLast? = some part ∧
          template.literals.getLast? = some last ∧ part <:+ sample ∧ part <:+ last := by
  have differ : result.elements ≠ template.elements := by
    intro same
    rw [endsOpen, same, ← endsOpen, closed] at closes
    contradiction
  obtain ⟨nonempty, other⟩ := made.of_ne left differ
  constructor
  · intro without
    have covers := without.mono (fits_of_withoutLast closes)
    exact ⟨covers, (Template.covers_withoutLast_iff nonempty other covers closes closed).1 without⟩
  · rintro ⟨covers, ends⟩
    exact (Template.covers_withoutLast_iff nonempty other covers closes closed).2 ends

/-- The literals of a generalized template are long if those of the template are, and then all
    wildcards at the beginning are needed. -/
theorem Generalizes.not_covers_withoutFirst (made : Generalizes template sample least result)
    (some : sample ≠ []) (left : result.isEmpty = false) (opens : result.startsOpen)
    (closed : template.startsOpen = false)
    (long : Element.LongLiterals least.chars template.elements) :
    ¬result.withoutFirst.Covers template sample := by
  intro without
  obtain ⟨-, part, _, head, -, -, -, short⟩ :=
    (made.covers_withoutFirst_iff some left opens closed).1 without
  have enough := made.longLiterals long part (mem_literals.1 (List.mem_of_head? head))
  omega

/-- A wildcard that a template gains at the beginning when it is generalized is needless just if
    there is another one and the literal behind it begins both the sample and the old template.  The
    literal is shorter than the least length then, so there is no such wildcard if all literals of
    the template are long enough.  A wildcard that a template gains at the end is needless just if
    there is another one and the literal before it ends both the sample and the old template.  For
    that the template that comes out has to cover the old one and the sample, as it does if that of
    the walk compiles. -/
theorem generalize_outer_gaps (template : Template) {sample : Text} (some : sample ≠ [])
    (least : SegmentLength)
    (nonempty : (template.generalize sample least).isEmpty = false) :
    ((template.walk sample least).Compiles →
      (template.generalize sample least).Covers template sample) ∧
    ((template.generalize sample least).startsOpen → template.startsOpen = false →
      ((template.generalize sample least).withoutFirst.Covers template sample ↔
        2 ≤ (template.generalize sample least).gapCount ∧
          ∃ part first, (template.generalize sample least).literals.head? = .some part ∧
            template.literals.head? = .some first ∧ part <+: sample ∧ part <+: first ∧
            part.length < least.chars) ∧
      (Element.LongLiterals least.chars template.elements →
        ¬(template.generalize sample least).withoutFirst.Covers template sample)) ∧
    ((template.generalize sample least).endsOpen → template.endsOpen = false →
      ((template.generalize sample least).withoutLast.Covers template sample ↔
        (template.generalize sample least).Covers template sample ∧
        2 ≤ (template.generalize sample least).gapCount ∧
          ∃ part last, (template.generalize sample least).literals.getLast? = .some part ∧
            template.literals.getLast? = .some last ∧ part <:+ sample ∧ part <:+ last)) := by
  have made := generalizes template sample least
  refine ⟨fun checked => made.covers checked some nonempty, fun opens closed => ⟨?_, ?_⟩, ?_⟩
  · exact made.covers_withoutFirst_iff some nonempty opens closed
  · exact made.not_covers_withoutFirst some nonempty opens closed
  · exact made.covers_withoutLast_iff nonempty

end Generalizing

/-- The sample has text before, amid and behind the literal.  The pieces are not at the ends of the
    sample, so all gaps are needed. -/
theorem generalize_outer_gaps_around :
    let template := ofElements [.literal "abcd".toList]
    let result := template.generalize "wooab0cdx".toList .shortest
    result.startsOpen ∧ result.endsOpen ∧
      ¬result.withoutFirst.Covers template "wooab0cdx".toList ∧
      ¬result.withoutLast.Covers template "wooab0cdx".toList := by
  intro template result
  have some : "wooab0cdx".toList ≠ [] := by decide
  have nonempty : result.isEmpty = false := by decide +kernel
  have opens : result.startsOpen := by decide +kernel
  have closes : result.endsOpen := by decide +kernel
  have long : Element.LongLiterals 2 template.elements := by
    have elements : template.elements = [.literal "abcd".toList] := by decide +kernel
    rw [elements]
    rintro part member
    cases List.mem_singleton.1 member
    decide
  obtain ⟨-, first, last⟩ := generalize_outer_gaps template some .shortest nonempty
  refine ⟨opens, closes, (first opens (by decide +kernel)).2 long, fun without => ?_⟩
  obtain ⟨-, -, part, _, ends, -, suffix, -⟩ := (last closes (by decide +kernel)).1 without
  have piece : result.literals.getLast? = .some "cd".toList := by decide +kernel
  cases piece.symm.trans ends
  exact absurd suffix (by decide)

/-- The literals are taken where they occur first, and what is left over gets a gap whether or not
    the template needs it.  The last literal does end the sample, one occurrence later.  The literal
    that the other sample begins with comes after one that is lost. -/
theorem generalize_gains_needless_gaps :
    (¬∀ (template : Template) (sample : Text) (least : SegmentLength), sample ≠ [] →
      (template.generalize sample least).isEmpty = false →
      (template.generalize sample least).endsOpen → template.endsOpen = false →
        ¬(template.generalize sample least).withoutLast.Covers template sample) ∧
    ¬∀ (template : Template) (sample : Text) (least : SegmentLength), sample ≠ [] →
      (template.generalize sample least).isEmpty = false →
      (template.generalize sample least).startsOpen → template.startsOpen = false →
        ¬(template.generalize sample least).withoutFirst.Covers template sample := by
  constructor
  · intro needed
    refine needed (ofElements [.literal "xy".toList, .wildcard, .literal "ab".toList])
      "0xyabab".toList .shortest (by decide) (by decide +kernel) (by decide +kernel)
      (by decide +kernel) ?_
    exact covers_of_marked '-' (by decide +kernel) (by decide +kernel) (by decide +kernel)
      (by decide +kernel)
  · intro needed
    refine needed (ofElements [.literal "ab1".toList, .wildcard, .literal "a".toList])
      "acc".toList .shortest (by decide) (by decide +kernel) (by decide +kernel)
      (by decide +kernel) ?_
    exact covers_of_marked '-' (by decide +kernel) (by decide +kernel) (by decide +kernel)
      (by decide +kernel)

end Template

end MailSort
