import MailSort.Text.Blank

/-! # Quoted texts

Names and keys stand in messages between double quotes.  A double quote and a backslash
get a backslash, the most common control characters have a letter of their own, and the
other control characters, as well as white space other than the plain blank, are given by
their code point in braces.  All else stands for itself, a single quote too.
-/

namespace MailSort

namespace Text

def isControl (c : Char) : Bool :=
  c.toNat < 0x20 || (0x7f ≤ c.toNat && c.toNat < 0xa0)

def quotedChar (c : Char) : List Char :=
  match c with
  | '"' => ['\\', '"']
  | '\\' => ['\\', '\\']
  | '\x00' => ['\\', '0']
  | '\t' => ['\\', 't']
  | '\n' => ['\\', 'n']
  | '\r' => ['\\', 'r']
  | c =>
    if c ≠ ' ' ∧ (isControl c ∨ isBlank c) then
      ['\\', 'u', '{'] ++ Nat.toDigits 16 c.toNat ++ ['}']
    else [c]

def quoted (text : Text) : String :=
  String.ofList ('"' :: text.flatMap quotedChar ++ ['"'])

end Text

end MailSort
