import MailSort.Instant
import MailSort.Text.Blank

/-! # Reading instants

An instant is read from a date, a time and a zone.  The reader is lenient about the form:
numbers need not be padded, white space may stand in front of each part, and the offset of
a zone may do without its colon.  Years of more than four digits and negative ones need a
sign.  It is strict about the values: there has to be such a day and such a time, and the
zone may not be left out.
-/

namespace MailSort

/-- A reader takes what it reads off the front of a text, or fails. -/
abbrev Reader := StateT Text Option

namespace Reader

def blanks : Reader Unit :=
  modify Text.trimStart

def char (c : Char) : Reader Unit := do
  match ← get with
  | first :: rest => if first = c then set rest else failure
  | [] => failure

def charThat (isFit : Char → Bool) : Reader Char := do
  match ← get with
  | first :: rest => if isFit first then set rest *> pure first else failure
  | [] => failure

/-- Reads at least one digit, and all that follow up to a number of digits. -/
def digits (most : Option Nat) : Reader Text := do
  let text ← get
  let run := text.takeWhile Char.isDigit
  let taken := (most.map fun most => run.take most).getD run
  if taken = [] then failure
  set (text.drop taken.length)
  return taken

/-- Reads a number of at most so many digits, with white space in front. -/
def number (most : Nat) : Reader Nat := do
  blanks
  return Nat.ofDigitChars 10 (← digits (some most)) 0

/-- Reads a number after a separator, with white space around the separator. -/
def numberAfter (separator : Char) (most : Nat) : Reader Nat := do
  blanks
  char separator
  number most

/-- Reads a year: up to four digits, or a sign and any number of digits. -/
def year : Reader Int := do
  blanks
  match ← get with
  | '-' :: rest => do
    set rest
    return -(Nat.ofDigitChars 10 (← digits none) 0 : Int)
  | '+' :: rest => do
    set rest
    return Nat.ofDigitChars 10 (← digits none) 0
  | _ => return (← number 4)

def date : Reader Date := do
  let date : Date := ⟨← year, ← numberAfter '-' 2, ← numberAfter '-' 2⟩
  if date.isValid then return date else failure

/-- Reads the fraction of a second in billionths, if there is one.  Digits beyond the ninth
    do not count. -/
def fraction : Reader Nat := do
  match ← get with
  | '.' :: rest => do
    set rest
    let first := (← digits none).take 9
    return Nat.ofDigitChars 10 first 0 * Nat.pow 10 (9 - first.length)
  | _ => return 0

/-- Reads a time of day: its second and the billionths of the second. -/
def time : Reader (Nat × Nat) := do
  let hour ← number 2
  let minute ← numberAfter ':' 2
  let second ← numberAfter ':' 2
  let nano ← fraction
  if 24 ≤ hour ∨ 60 ≤ minute ∨ 61 ≤ second then failure
  else if second = 60 then
    return (3600 * hour + 60 * minute + 59, Instant.secondLength + nano)
  else return (3600 * hour + 60 * minute + second, nano)

def twoDigits : Reader Nat := do
  let first ← charThat Char.isDigit
  let second ← charThat Char.isDigit
  return Nat.ofDigitChars 10 [first, second] 0

/-- Reads the offset of a zone behind its sign, in seconds. -/
def offset : Reader Nat := do
  let hours ← twoDigits
  modify (List.dropWhile fun c => c = ':' || Text.isBlank c)
  let minutes ← twoDigits
  if 60 ≤ minutes ∨ 24 ≤ hours then failure
  return 3600 * hours + 60 * minutes

/-- Reads a zone: how many seconds its local time is ahead. -/
def zone : Reader Int := do
  blanks
  match ← get with
  | c :: rest =>
    if c = 'Z' ∨ c = 'z' then set rest *> pure 0
    else if c = '+' then do
      set rest
      return ← offset
    else if c = '-' ∨ c = '\u2212' then do
      set rest
      return -(← offset : Nat)
    else if ((c :: rest).take 3).map Char.toLower = ['u', 't', 'c'] then do
      set (rest.drop 2)
      return 0
    else failure
  | [] => failure

def instant : Reader Instant := do
  let date ← date
  let _ ← charThat fun c => c = 'T' || c = 't' || c = ' '
  let (second, nano) ← time
  let ahead ← zone
  blanks
  match Instant.ofLocal? date second nano ahead with
  | some instant => return instant
  | none => failure

end Reader

/-- Reads an instant that makes up a whole text. -/
def Instant.parse? (text : Text) : Option Instant :=
  match Reader.instant.run text with
  | some (instant, []) => some instant
  | _ => none

end MailSort
