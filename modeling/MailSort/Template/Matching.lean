import MailSort.Template

/-! # Matching

A template fits a text if the text is the template's literals, in order, with some text
in the place of each wildcard.  If there are several ways to read the text so, the first
gap is as short as possible, then the second, and so on.

It is enough to look for the leftmost occurrence of each literal: a later occurrence
leaves no more room for the rest.  Only a literal at the very end has no choice, since
nothing may follow it.
-/

namespace MailSort

namespace Element

/-- The texts that fill the wildcards of alternating elements when they are read off a
    text, with the shortest gaps first. -/
def fillGaps? : List Element → Text → Option (List Text)
  | [], text => if text = [] then some [] else none
  | [.wildcard], text => some [text]
  -- Nothing may follow the last literal, so the gap before it has no choice.
  | [.wildcard, .literal part], text => (part.isSuffixOf? text).map fun gap => [gap]
  | .wildcard :: .literal part :: rest, text =>
    match Text.breakAt? part text with
    | some (gap, text) => (fillGaps? rest text).map (gap :: ·)
    | none => none
  -- Elements that alternate do not get here.
  | .wildcard :: rest, text => (fillGaps? rest text).map ([] :: ·)
  | .literal part :: rest, text =>
    match part.isPrefixOf? text with
    | some text => fillGaps? rest text
    | none => none

end Element

namespace Template

/-- The text in each gap of the template, in order, if the template fits the candidate. -/
def gaps? (template : Template) (candidate : Text) : Option (List Text) :=
  if template.isEmpty then none else Element.fillGaps? template.elements candidate

def fits (template : Template) (candidate : Text) : Bool :=
  (template.gaps? candidate).isSome

end Template

end MailSort
