import MailSort.Json.Literal
import MailSort.Text.Count

/-! # Documents

Records are exchanged as documents in JSON.  `Json` is the tree of a document, and
`Json.render` is the compact way to write it, without any white space.
-/

namespace MailSort

/-- A value in a document. -/
inductive Json where
  | null
  | bool (value : Bool)
  /-- A number as it is written. -/
  | number (lexeme : Text)
  /-- A string.  A literal with one half of a surrogate pair stands for no text. -/
  | string (text? : Option Text)
  | array (items : List Json)
  /-- Named members, in order. -/
  | object (members : List (Option Text × Json))
  deriving Inhabited

namespace Json

def text (text : Text) : Json :=
  .string (some text)

def count (count : Nat) : Json :=
  .number (Text.ofCount count)

def record (members : List (String × Json)) : Json :=
  .object (members.map fun (name, value) => (some name.toList, value))

/-- A literal for a string.  If it stands for no text it is written as half a pair. -/
def renderString : Option Text → Text
  | some text => quote text
  | none => "\"\\ud800\"".toList

def separated (separator : Text) : List Text → Text
  | [] => []
  | [text] => text
  | text :: rest => text ++ separator ++ separated separator rest

mutual

def render : Json → Text
  | .null => "null".toList
  | .bool true => "true".toList
  | .bool false => "false".toList
  | .number lexeme => lexeme
  | .string text? => renderString text?
  | .array items => '[' :: separated [','] (renderItems items) ++ [']']
  | .object members => '{' :: separated [','] (renderMembers members) ++ ['}']

def renderItems : List Json → List Text
  | [] => []
  | item :: items => render item :: renderItems items

def renderMembers : List (Option Text × Json) → List Text
  | [] => []
  | (name, value) :: members =>
    (renderString name ++ ':' :: render value) :: renderMembers members

end

end Json

end MailSort
