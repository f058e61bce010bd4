set_option autoImplicit false

namespace ScanSetup.Time

structure Date where
  year : Int
  month : Nat
  day : Nat
  deriving DecidableEq, Repr

/-- Every fourth year has a leap day, except centuries that are not divisible by 400. -/
def isLeap (year : Int) : Bool := year % 4 == 0 && (year % 100 != 0 || year % 400 == 0)

/-- The days of a month; months outside 1 to 12 have none. -/
def daysInMonth (year : Int) : Nat → Nat
  | 1 => 31
  | 2 => if isLeap year then 29 else 28
  | 3 => 31
  | 4 => 30
  | 5 => 31
  | 6 => 30
  | 7 => 31
  | 8 => 31
  | 9 => 30
  | 10 => 31
  | 11 => 30
  | 12 => 31
  | _ => 0

def Date.isValid (d : Date) : Bool := 1 ≤ d.day && d.day ≤ daysInMonth d.year d.month

/-- The days of the years before `year`, counted from year 1. -/
def daysBeforeYear (year : Int) : Int :=
  let past := year - 1
  365 * past + past / 4 - past / 100 + past / 400

/-- The days of a year before a month. -/
def daysBeforeMonth (year : Int) (month : Nat) : Nat :=
  ((List.range month).map (daysInMonth year)).foldr (· + ·) 0

def epochDays : Int := daysBeforeYear 1970

/-- The number of days from 1970-01-01 to a date. -/
def Date.toDays (d : Date) : Int :=
  daysBeforeYear d.year + daysBeforeMonth d.year d.month + d.day - 1 - epochDays

/-- The month that holds day `rest` of a year, both counted from the month `month` on. -/
def monthOf (year : Int) : Nat → Nat → Nat → Nat × Nat
  | 0, month, rest => (month, rest)
  | more + 1, month, rest =>
    if rest < daysInMonth year month then (month, rest)
    else monthOf year more (month + 1) (rest - daysInMonth year month)

/-- The year that holds a day. The mean length of a year gives it with an error of one year at
most. -/
def yearOfDays (days : Int) : Int :=
  let guess := (days + epochDays) * 400 / 146097 + 1
  if daysBeforeYear (guess + 1) ≤ days + epochDays then guess + 1
  else if days + epochDays < daysBeforeYear guess then guess - 1
  else guess

/-- The date a number of days after 1970-01-01. -/
def Date.ofDays (days : Int) : Date :=
  let year := yearOfDays days
  let (month, rest) := monthOf year 11 1 (days + epochDays - daysBeforeYear year).toNat
  ⟨year, month, rest + 1⟩

end ScanSetup.Time
