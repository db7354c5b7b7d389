import MailSort.Text

/-! # String literals

In a document a text stands between double quotes.  A double quote, a backslash and the
characters below U+0020 have to be escaped; all other characters may stand for themselves.

Reading takes two steps.  `Piece.read?` takes a literal apart into characters and escaped
code units and finds its end.  `Piece.text?` then says which text the pieces stand for; a
literal with one half of a surrogate pair stands for none.
-/

namespace MailSort

namespace Json

/-- A part of a string literal. -/
inductive Piece where
  /-- A character that stands for itself or has an escape of its own. -/
  | char (c : Char)
  /-- A code unit of 16 bits that is given by its number. -/
  | unit (code : Nat)
  deriving DecidableEq, Repr

def hexDigit? (c : Char) : Option Nat :=
  if '0' ≤ c ∧ c ≤ '9' then some (c.toNat - '0'.toNat)
  else if 'a' ≤ c ∧ c ≤ 'f' then some (c.toNat - 'a'.toNat + 10)
  else if 'A' ≤ c ∧ c ≤ 'F' then some (c.toNat - 'A'.toNat + 10)
  else none

def hexNumber? (digits : List Char) : Option Nat :=
  digits.foldlM (fun number c => (hexDigit? c).map (16 * number + ·)) 0

namespace Piece

/-- The character of an escape of two characters, from the second one. -/
def escaped? : Char → Option Char
  | '"' => some '"'
  | '\\' => some '\\'
  | '/' => some '/'
  | 'b' => some '\x08'
  | 'f' => some '\x0c'
  | 'n' => some '\n'
  | 'r' => some '\r'
  | 't' => some '\t'
  | _ => none

/-- Whether a character may stand for itself. -/
def isPlain (c : Char) : Bool :=
  0x20 ≤ c.toNat && c ≠ '"' && c ≠ '\\'

/-- Reads a literal from behind its opening quote.  The result is the pieces and the text
    behind the closing quote. -/
def read? : Text → Option (List Piece × Text)
  | '"' :: rest => some ([], rest)
  | '\\' :: 'u' :: a :: b :: c :: d :: rest =>
    match hexNumber? [a, b, c, d], read? rest with
    | some code, some (pieces, rest) => some (.unit code :: pieces, rest)
    | _, _ => none
  | '\\' :: name :: rest =>
    match escaped? name, read? rest with
    | some c, some (pieces, rest) => some (.char c :: pieces, rest)
    | _, _ => none
  | c :: rest =>
    if isPlain c then (read? rest).map fun (pieces, rest) => (.char c :: pieces, rest)
    else none
  | [] => none

/-- Whether a code unit is the first half of a surrogate pair. -/
def isHigh (code : Nat) : Bool :=
  0xd800 ≤ code && code < 0xdc00

/-- Whether a code unit is the second half of a surrogate pair. -/
def isLow (code : Nat) : Bool :=
  0xdc00 ≤ code && code < 0xe000

def pair (high low : Nat) : Char :=
  Char.ofNat (0x10000 + (high - 0xd800) * 0x400 + (low - 0xdc00))

/-- The text that pieces stand for. -/
def text? : List Piece → Option Text
  | [] => some []
  | .char c :: rest => (text? rest).map (c :: ·)
  | .unit high :: .unit low :: rest =>
    if isHigh high then
      if isLow low then (text? rest).map (pair high low :: ·) else none
    else if isLow high then none
    else (text? (.unit low :: rest)).map (Char.ofNat high :: ·)
  -- A half without its other half stands for nothing.
  | .unit code :: rest =>
    if isHigh code || isLow code then none else (text? rest).map (Char.ofNat code :: ·)

end Piece

def escape (c : Char) : Text :=
  match c with
  | '"' => ['\\', '"']
  | '\\' => ['\\', '\\']
  | '\x08' => ['\\', 'b']
  | '\x0c' => ['\\', 'f']
  | '\n' => ['\\', 'n']
  | '\r' => ['\\', 'r']
  | '\t' => ['\\', 't']
  | c =>
    if c.toNat < 0x20 then
      ['\\', 'u', '0', '0', Nat.digitChar (c.toNat / 16), Nat.digitChar (c.toNat % 16)]
    else [c]

def quote (text : Text) : Text :=
  '"' :: text.flatMap escape ++ ['"']

end Json

end MailSort
