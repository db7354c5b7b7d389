import MailSort.Proofs.Json.RoundTrip
import MailSort.Proofs.Template.Canonical
import MailSort.Template.Document

/-! # Templates read from documents

Elements are written as they stand, and read back one by one (`Element.listOfJson?_array`).  Only
then are they brought into normal form.  The elements of a template are in normal form already, so
a template comes back unchanged, whatever characters are in its literals.  A document that was
written by someone else may hold other elements; written again it is the document of a template, and
stays what it is from then on (`Template.rewrite?_rewrite?`).
-/

namespace MailSort

namespace Element

def renderList (elements : List Element) : Text :=
  (Json.array (elements.map toJson)).render

variable {elements : List Element}

theorem plain_toJson (element : Element) : element.toJson.Plain := by
  cases element with
  | literal text => exact .object (List.forall_mem_singleton.2 (.string (some text)))
  | wildcard => exact .string _

theorem ofJson?_toJson (element : Element) : ofJson? element.toJson = some element := by
  cases element with
  | literal text => rfl
  | wildcard => rfl

theorem listOfJson?_array (elements : List Element) :
    listOfJson? (.array (elements.map toJson)) = some elements :=
  Json.mapM_map_eq_some fun element _ => ofJson?_toJson element

end Element

namespace Template

variable {text : Text}

theorem parse?_renderList (elements : List Element) :
    parse? (Element.renderList elements) = some (ofElements elements) := by
  have plain : (Json.array (elements.map Element.toJson)).Plain := by
    refine .array fun item member => ?_
    obtain ⟨element, -, rfl⟩ := List.mem_map.1 member
    exact element.plain_toJson
  rw [parse?, Element.renderList, Json.parse?_render plain, Option.bind_some,
    Element.listOfJson?_array, Option.map_some]

theorem parse?_render (template : Template) : parse? template.render = some template := by
  have read := parse?_renderList template.elements
  rw [ofElements_elements] at read
  exact read

/-- The document that a document of a template is written as again. -/
def rewrite? (text : Text) : Option Text :=
  (parse? text).map render

theorem rewrite?_rewrite? (text : Text) : (rewrite? text).bind rewrite? = rewrite? text := by
  rw [rewrite?]
  cases parse? text with
  | none => rfl
  | some template =>
    rw [Option.map_some, Option.bind_some, rewrite?, parse?_render, Option.map_some]

/-- A template comes back from its document, and elements from theirs as the template that they
    make.  What is read and written again stays the same when that is done once more. -/
theorem document_roundTrip :
    (∀ template : Template, parse? template.render = some template) ∧
    (∀ elements : List Element, parse? (Element.renderList elements) = some (ofElements elements)) ∧
    ∀ text : Text, (rewrite? text).bind rewrite? = rewrite? text :=
  ⟨parse?_render, parse?_renderList, rewrite?_rewrite?⟩

/-- Two literals that are read as one: quotes, backslashes and control characters are escaped. -/
example : Element.renderList [.literal "\"".toList, .literal "\\\x01".toList, .wildcard] =
    "[\x7b\"Literal\":\"\\\"\"\x7d,\x7b\"Literal\":\"\\\\\\u0001\"\x7d,\"Wildcard\"]".toList := by
  decide

end Template

end MailSort
