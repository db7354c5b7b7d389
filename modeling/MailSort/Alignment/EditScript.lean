import MailSort.Text

/-! # Edit scripts

An edit script turns one text into another: it keeps, deletes and inserts runs of
characters from left to right.  Every edit carries its own characters, so both texts can
be read off a script: `EditScript.source` is what it is applied to and
`EditScript.target` is what it produces.
-/

namespace MailSort

/-- The two ways in which an edit changes a text. -/
inductive Change where
  | delete
  | insert
  deriving DecidableEq, Repr

/-- One step of an edit script. -/
inductive Edit where
  | keep (text : Text)
  | change (kind : Change) (text : Text)
  deriving DecidableEq, Repr

/-- A sequence of edits, from left to right. -/
abbrev EditScript := List Edit

namespace Edit

def source : Edit → Text
  | .keep text => text
  | .change .delete text => text
  | .change .insert _ => []

def target : Edit → Text
  | .keep text => text
  | .change .delete _ => []
  | .change .insert text => text

def isChange (kind : Change) : Edit → Bool
  | .keep _ => false
  | .change other _ => other = kind

end Edit

namespace EditScript

/-- The text a script is applied to. -/
def source (script : EditScript) : Text :=
  script.flatMap Edit.source

/-- The text a script produces. -/
def target (script : EditScript) : Text :=
  script.flatMap Edit.target

def kept (script : EditScript) : List Text :=
  script.filterMap fun
    | .keep text => some text
    | .change _ _ => none

/-- Puts a kept run in front of a script, as part of its first edit if that is a kept run
    too.  An empty run leaves the script as it is. -/
def keepBefore (text : Text) (script : EditScript) : EditScript :=
  if text = [] then script
  else
    match script with
    | .keep next :: rest => .keep (text ++ next) :: rest
    | rest => .keep text :: rest

/-- Makes every kept run of a script maximal: neighbouring runs become one, and edits
    without characters disappear. -/
def joined : EditScript → EditScript
  | [] => []
  | .keep text :: rest => keepBefore text (joined rest)
  | .change kind text :: rest =>
    if text = [] then joined rest else .change kind text :: joined rest

end EditScript

end MailSort
