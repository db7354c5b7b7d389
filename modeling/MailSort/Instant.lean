import MailSort.Calendar
import MailSort.Text

/-! # Instants

An instant is a moment in coordinated universal time.  It is written as a date and a time
with the zone `Z`, and with as many groups of three digits for the fraction of the second
as it needs.

A leap second is the second that a minute has beyond 60.  It is kept as a fraction that is
a full second or more.
-/

namespace MailSort

/-- A moment: the day, the second of the day, and billionths of the second. -/
structure Instant where
  /-- The number of the day in the count of calendar days. -/
  day : Int
  second : Nat
  nano : Nat
  deriving DecidableEq, Repr

namespace Instant

def dayLength : Nat := 86400

/-- The billionths in a second. -/
def secondLength : Nat := 1000000000

def isBefore (first second : Instant) : Bool :=
  first.day < second.day || (first.day = second.day &&
    (first.second < second.second ||
      (first.second = second.second && first.nano < second.nano)))

def latest? (instants : List Instant) : Option Instant :=
  instants.foldl (fun latest next =>
    match latest with
    | some held => if held.isBefore next then some next else some held
    | none => some next) none

/-- The instant of a local time in a zone that is ahead by some seconds, if its date in
    universal time is one that dates may have. -/
def ofLocal? (date : Date) (second nano : Nat) (ahead : Int) : Option Instant :=
  let total := date.toDays * dayLength + second - ahead
  let day := total / dayLength
  if Date.isYear (Date.ofDays day).year then some ⟨day, (total % dayLength).toNat, nano⟩
  else none

def padded (length number : Nat) : Text :=
  let digits := Nat.toDigits 10 number
  List.replicate (length - digits.length) '0' ++ digits

/-- A year of four digits, or of more with a sign. -/
def yearText (year : Int) : Text :=
  if 0 ≤ year ∧ year ≤ 9999 then padded 4 year.toNat
  else (if year < 0 then '-' else '+') :: padded 4 year.natAbs

/-- The fraction of a second in billionths, with the fewest groups of three digits. -/
def fractionText (nano : Nat) : Text :=
  if nano = 0 then []
  else if nano % 1000000 = 0 then '.' :: padded 3 (nano / 1000000)
  else if nano % 1000 = 0 then '.' :: padded 6 (nano / 1000)
  else '.' :: padded 9 nano

def text (instant : Instant) : Text :=
  let date := Date.ofDays instant.day
  let second := instant.second % 60 + instant.nano / secondLength
  yearText date.year ++ '-' :: padded 2 date.month ++ '-' :: padded 2 date.day ++
    'T' :: padded 2 (instant.second / 3600) ++ ':' :: padded 2 (instant.second / 60 % 60) ++
    ':' :: padded 2 second ++ fractionText (instant.nano % secondLength) ++ ['Z']

end Instant

end MailSort
