import MailSort.Json.Decode
import MailSort.Json.Parser
import MailSort.Template
import MailSort.Text.Quoted

/-! # Templates as documents

A template is shown as a list of its elements, with a star for a wildcard.  In a document
it is the array of its elements, each of which is a variant.  What is read is brought into
normal form.
-/

namespace MailSort

namespace Element

def display : Element → String
  | .literal text => text.quoted
  | .wildcard => "*"

def literalName : String := "Literal"

def wildcardName : String := "Wildcard"

def toJson : Element → Json
  | .literal text => .record [(literalName, .text text)]
  | .wildcard => .text wildcardName.toList

def ofJson? (value : Json) : Option Element :=
  match value.variant? with
  | some (name, carried) =>
    if name = literalName.toList then (carried.bind Json.text?).map .literal
    else if name = wildcardName.toList ∧ Json.carriesNothing carried then some .wildcard
    else none
  | none => none

/-- The elements in a value of a document, as they stand there. -/
def listOfJson? (value : Json) : Option (List Element) := do
  (← value.items?).mapM ofJson?

end Element

namespace Template

def display (template : Template) : String :=
  "[" ++ ", ".intercalate (template.elements.map Element.display) ++ "]"

def toJson (template : Template) : Json :=
  .array (template.elements.map Element.toJson)

def render (template : Template) : Text :=
  template.toJson.render

def parse? (text : Text) : Option Template :=
  ((Json.parse? text).bind Element.listOfJson?).map ofElements

end Template

end MailSort
