import MailSort.Text

/-! # Arguments

The arguments of the command line are options, each with a value of its own: behind an
equals sign, or as the next argument.  No option may be repeated.
-/

namespace MailSort

/-- The options of the command line. -/
structure Arguments where
  corpus? : Option String
  headers? : Option String
  predictor? : Option String
  deriving DecidableEq, Repr

namespace Arguments

def usage : String :=
  "usage: score-headers --corpus <CORPUS> --headers <HEADERS> [--predictor <PREDICTOR>]"

def none : Arguments :=
  ⟨.none, .none, .none⟩

def set? (arguments : Arguments) (option : Text) (value : Text) : Option Arguments :=
  let value := some (String.ofList value)
  if option = "--corpus".toList ∧ arguments.corpus?.isNone then
    some { arguments with corpus? := value }
  else if option = "--headers".toList ∧ arguments.headers?.isNone then
    some { arguments with headers? := value }
  else if option = "--predictor".toList ∧ arguments.predictor?.isNone then
    some { arguments with predictor? := value }
  else .none

def read? (arguments : Arguments) : List Text → Option Arguments
  | [] => some arguments
  | [option] =>
    match option.span (· ≠ '=') with
    | (name, _ :: value) => arguments.set? name value
    | _ => .none
  | option :: next :: rest =>
    match option.span (· ≠ '=') with
    | (name, _ :: value) =>
      (arguments.set? name value).bind fun arguments => arguments.read? (next :: rest)
    | (name, []) => (arguments.set? name next).bind fun arguments => arguments.read? rest

def parse? (arguments : List String) : Option Arguments :=
  none.read? (arguments.map String.toList)

end Arguments

end MailSort
