import MailSort.Json
import MailSort.Json.Number

/-! # Reading documents

A document is one value with white space around it.  The readers take what they read off
the front of a text and return what is left.  They are given fuel for the depth and the
length of what they read; each character is worth two units, which is always enough.
-/

namespace MailSort

namespace Json

def isBlank (c : Char) : Bool :=
  c = ' ' || c = '\t' || c = '\n' || c = '\r'

def skipBlanks (text : Text) : Text :=
  text.dropWhile isBlank

/-- Reads a string from behind its opening quote. -/
def readString? (text : Text) : Option (Option Text × Text) :=
  (Piece.read? text).map fun (pieces, rest) => (Piece.text? pieces, rest)

/-- Reads the rest of a word that stands for a value. -/
def readWord? (word : String) (value : Json) (text : Text) : Option (Json × Text) :=
  (word.toList.isPrefixOf? text).map fun rest => (value, rest)

mutual

def readValue? : (fuel : Nat) → Text → Option (Json × Text)
  | 0, _ => none
  | fuel + 1, text =>
    match text with
    | 'n' :: rest => readWord? "ull" .null rest
    | 't' :: rest => readWord? "rue" (.bool true) rest
    | 'f' :: rest => readWord? "alse" (.bool false) rest
    | '"' :: rest => (readString? rest).map fun (text?, rest) => (.string text?, rest)
    | '[' :: rest =>
      match skipBlanks rest with
      | ']' :: rest => some (.array [], rest)
      | rest => (readItems? fuel rest).map fun (items, rest) => (.array items, rest)
    | '{' :: rest =>
      match skipBlanks rest with
      | '}' :: rest => some (.object [], rest)
      | rest => (readMembers? fuel rest).map fun (members, rest) => (.object members, rest)
    | text => (splitNumber? text).map fun (lexeme, rest) => (.number lexeme, rest)

def readItems? : (fuel : Nat) → Text → Option (List Json × Text)
  | 0, _ => none
  | fuel + 1, text =>
    match readValue? fuel text with
    | none => none
    | some (item, rest) =>
      match skipBlanks rest with
      | ']' :: rest => some ([item], rest)
      | ',' :: rest =>
        (readItems? fuel (skipBlanks rest)).map fun (items, rest) => (item :: items, rest)
      | _ => none

def readMembers? : (fuel : Nat) → Text → Option (List (Option Text × Json) × Text)
  | 0, _ => none
  | fuel + 1, text =>
    match text with
    | '"' :: rest =>
      match readString? rest with
      | none => none
      | some (name, rest) =>
        match skipBlanks rest with
        | ':' :: rest =>
          match readValue? fuel (skipBlanks rest) with
          | none => none
          | some (value, rest) =>
            match skipBlanks rest with
            | '}' :: rest => some ([(name, value)], rest)
            | ',' :: rest =>
              (readMembers? fuel (skipBlanks rest)).map fun (members, rest) =>
                ((name, value) :: members, rest)
            | _ => none
        | _ => none
    | _ => none

end

def parse? (text : Text) : Option Json :=
  match readValue? (2 * text.length + 2) (skipBlanks text) with
  | some (value, rest) => if skipBlanks rest = [] then some value else none
  | none => none

end Json

end MailSort
