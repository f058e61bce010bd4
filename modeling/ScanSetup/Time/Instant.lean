import ScanSetup.Number.Binary64.Writing
import ScanSetup.Time.Calendar

set_option autoImplicit false

namespace ScanSetup.Time

open Number

inductive InstantFault
  | notANumber
  /-- The seconds do not fit into 64 bits. -/
  | secondsOutOfRange
  /-- The calendar year does not fit into 32 bits. -/
  | yearTooLarge
  /-- The calendar year is not one of 1 to 9999. -/
  | yearOutOfRange (year : Int)
  deriving DecidableEq, Repr

def InstantFault.message : InstantFault → String
  | .notANumber => "Invalid value NaN (not a number)"
  | .secondsOutOfRange => "timestamp out of range for platform time_t"
  | .yearTooLarge => "[Errno 75] Value too large for defined data type"
  | .yearOutOfRange year => "year " ++ toString year ++ " is out of range"

def micros : Nat := 1000000

/-- The magnitude of an instant in microseconds. The fraction of a second is multiplied as a
double-precision number and the product rounded to a whole number, a tie going to the even
neighbour. -/
def magnitudeMicros (units : Nat) : Nat :=
  let fraction := Binary64.roundUnits (units % Binary64.one * micros) 1
  units / Binary64.one * micros + roundDiv .toEven fraction Binary64.one

/-- A time in UTC, to the microsecond. -/
structure Civil where
  date : Date
  hour : Nat
  minute : Nat
  second : Nat
  micro : Nat
  deriving DecidableEq, Repr

/-- The time `total` microseconds after 1970. -/
def Civil.ofMicros (total : Int) : Civil :=
  let seconds := total / micros
  let ofDay := (seconds % 86400).toNat
  ⟨Date.ofDays (seconds / 86400), ofDay / 3600, ofDay / 60 % 60, ofDay % 60,
    (total % micros).toNat⟩

/-- The years that a calendar with 32-bit years counted from 1900 can hold. -/
def yearFits (year : Int) : Bool := -2147483648 ≤ year - 1900 && year - 1900 < 2147483648

/-- The seconds that a clock with 64-bit seconds can hold. -/
def secondsFit (seconds : Int) : Bool :=
  -9223372036854775808 ≤ seconds && seconds < 9223372036854775808

/-- The civil time of an instant, for the years 1 to 9999. -/
def civil (instant : Binary64) : Except InstantFault Civil :=
  match instant with
  | .nan => .error .notANumber
  | .infinite _ => .error .secondsOutOfRange
  | .finite negative units =>
    let total : Int := if negative then -(magnitudeMicros units : Int) else magnitudeMicros units
    let seconds := total / micros
    if !secondsFit seconds then .error .secondsOutOfRange
    else
      let time := Civil.ofMicros total
      if !yearFits time.date.year then .error .yearTooLarge
      else if time.date.year < 1 || 9999 < time.date.year then
        .error (.yearOutOfRange time.date.year)
      else .ok time

def padded (width n : Nat) : String := Binary64.padZeros width (toString n)

/-- The date and time of day to the millisecond; further digits are dropped. The year has no
leading zeros. -/
def Civil.text (t : Civil) : String :=
  toString t.date.year ++ "-" ++ padded 2 t.date.month ++ "-" ++ padded 2 t.date.day ++ "T" ++
    padded 2 t.hour ++ ":" ++ padded 2 t.minute ++ ":" ++ padded 2 t.second ++ "." ++
    padded 3 (t.micro / 1000) ++ "Z"

def instantText (instant : Binary64) : Except InstantFault String := (civil instant).map Civil.text

end ScanSetup.Time
