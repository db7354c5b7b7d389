import MailSort.Json

/-! # Records and variants in documents

A record is written as an object with a member for each field, and is also read from an
array of its fields in order.  A variant is written as its name, or, if it carries a
value, as an object with the name as its only member.
-/

namespace MailSort

namespace Json

def text? : Json → Option Text
  | .string text? => text?
  | _ => none

def asCount? : Json → Option Nat
  | .number lexeme => Text.toCount? lexeme
  | _ => none

def items? : Json → Option (List Json)
  | .array items => some items
  | _ => none

/-- The members of an object whose names are all texts. -/
def members? : Json → Option (List (Text × Json))
  | .object members => members.mapM fun (name, value) => name.map fun name => (name, value)
  | _ => none

/-- The value of a field: nothing inside if the field is left out, and nothing at all if it
    is repeated. -/
def field? (members : List (Text × Json)) (name : Text) : Option (Option Json) :=
  match members.filter fun member => member.1 = name with
  | [] => some none
  | [member] => some (some member.2)
  | _ => none

/-- The values of the named fields of a record, in this order.  Other members of an object
    are ignored; an array has no room for other items. -/
def fields? (names : List String) : Json → Option (List (Option Json))
  | .array items =>
    if items.length ≤ names.length then
      some (items.map some ++ List.replicate (names.length - items.length) none)
    else none
  | value => do
    let members ← value.members?
    names.mapM fun name => field? members name.toList

/-- The name of a variant, and the value it carries, if any. -/
def variant? : Json → Option (Text × Option Json)
  | .string text? => text?.map fun name => (name, none)
  | .object [(name, value)] => name.map fun name => (name, some value)
  | _ => none

/-- Whether a variant carries no value; a null does not count as one. -/
def carriesNothing : Option Json → Bool
  | none => true
  | some .null => true
  | some _ => false

end Json

end MailSort
