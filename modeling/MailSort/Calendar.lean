/-! # Calendar days

Days are counted from 1970-01-01 in the Gregorian calendar, which is extended to all years,
the year 0 and negative years too.  The count takes years from March to February, so that
the leap day comes last, in cycles of 400 years.
-/

namespace MailSort

/-- A year, a month and a day of the month. -/
structure Date where
  year : Int
  month : Nat
  day : Nat
  deriving DecidableEq, Repr

namespace Date

def isYear (year : Int) : Bool :=
  -262143 ≤ year && year ≤ 262142

def isLeapYear (year : Int) : Bool :=
  year % 4 = 0 && (year % 100 ≠ 0 || year % 400 = 0)

def monthLength (year : Int) (month : Nat) : Nat :=
  match month with
  | 2 => if isLeapYear year then 29 else 28
  | 4 | 6 | 9 | 11 => 30
  | _ => 31

def isValid (date : Date) : Bool :=
  isYear date.year && 1 ≤ date.month && date.month ≤ 12 &&
    1 ≤ date.day && date.day ≤ monthLength date.year date.month

/-- The days of a cycle of 400 years. -/
def cycleLength : Int := 146097

/-- The days from March 1 of the year 0 to the first day of the count. -/
def countStart : Int := 719468

/-- The days from March 1 to the beginning of a month, which is counted from March. -/
def daysBeforeMonth (month : Int) : Int :=
  (153 * month + 2) / 5

/-- The days from the beginning of a cycle to the beginning of a year of it. -/
def daysBeforeYear (year : Int) : Int :=
  365 * year + year / 4 - year / 100

/-- The number of a day in the count. -/
def toDays (date : Date) : Int :=
  let year := if date.month ≤ 2 then date.year - 1 else date.year
  let month : Int := (date.month + 9) % 12
  year / 400 * cycleLength + daysBeforeYear (year % 400) + daysBeforeMonth month +
    (date.day - 1) - countStart

/-- The day with a number in the count. -/
def ofDays (days : Int) : Date :=
  let cycle := (days + countStart) / cycleLength
  let rest := (days + countStart) % cycleLength
  let year := (rest - rest / 1460 + rest / 36524 - rest / 146096) / 365
  let rest := rest - daysBeforeYear year
  let month := (5 * rest + 2) / 153
  let day := rest - daysBeforeMonth month + 1
  { year := 400 * cycle + year + (if month < 10 then 0 else 1)
    month := (if month < 10 then month + 3 else month - 9).toNat
    day := day.toNat }

end Date

end MailSort
