import MailSort.Text

/-! # Numbers in documents

A number is kept as it is written: an optional minus sign, a whole part without needless
zeros, and optionally a fraction and an exponent.
-/

namespace MailSort

namespace Json

def splitDigits (text : Text) : Text × Text :=
  text.span Char.isDigit

/-- Takes the whole part of a number: a zero, or digits that do not begin with a zero. -/
def splitWhole? (text : Text) : Option (Text × Text) :=
  match text with
  | '0' :: rest => some (['0'], rest)
  | text =>
    let (digits, rest) := splitDigits text
    if digits = [] then none else some (digits, rest)

/-- Takes the fraction of a number: a point with digits behind it. -/
def splitFraction (text : Text) : Text × Text :=
  match text with
  | '.' :: text =>
    let (digits, rest) := splitDigits text
    if digits = [] then ([], '.' :: text) else ('.' :: digits, rest)
  | text => ([], text)

/-- Takes the exponent of a number: a letter, an optional sign and digits. -/
def splitExponent (text : Text) : Text × Text :=
  match text with
  | mark :: rest =>
    if mark = 'e' ∨ mark = 'E' then
      let (sign, unsigned) :=
        match rest with
        | c :: rest => if c = '+' ∨ c = '-' then ([c], rest) else ([], c :: rest)
        | [] => ([], [])
      let (digits, rest) := splitDigits unsigned
      if digits = [] then ([], text) else (mark :: sign ++ digits, rest)
    else ([], text)
  | [] => ([], [])

/-- Takes a number off the front of a text.  Its parts are taken as far as they go: what
    is left of a broken number cannot stand behind a value. -/
def splitNumber? (text : Text) : Option (Text × Text) :=
  let (sign, unsigned) :=
    match text with
    | '-' :: rest => (['-'], rest)
    | text => ([], text)
  (splitWhole? unsigned).map fun (whole, rest) =>
    let (fraction, rest) := splitFraction rest
    let (exponent, rest) := splitExponent rest
    (sign ++ whole ++ fraction ++ exponent, rest)

end Json

end MailSort
