import ScanSetup.Number.Decimal

set_option autoImplicit false

namespace ScanSetup.Number

/-- A double-precision number. Zero has a sign. -/
inductive Binary64
  | finite (negative : Bool) (units : Nat)
  | infinite (negative : Bool)
  | nan
  deriving DecidableEq, Repr

namespace Binary64

/-- The units in one. -/
def one : Nat := Nat.pow 2 1074

/-- The bits of a significand. -/
def precision : Nat := 53

/-- The number of bits of `n`; zero has none. -/
def bitCount (n : Nat) : Nat := if n = 0 then 0 else n.log2 + 1

/-- The distance of neighbouring numbers at a magnitude of `units`. -/
def spacing (units : Nat) : Nat := Nat.pow 2 (bitCount units - precision)

/-- The least magnitude that is out of range. -/
def overflowUnits : Nat := Nat.pow 2 1024 * one

/-- `num / den` units rounded to a significand of `precision` bits, a tie going to the even
neighbour. -/
def roundUnits (num den : Nat) : Nat :=
  let step := spacing (num / den)
  roundDiv .toEven num (den * step) * step

/-- The number nearest to `num / den` units. -/
def ofQuotient (negative : Bool) (num den : Nat) : Binary64 :=
  let units := roundUnits num den
  if units < overflowUnits then .finite negative units else .infinite negative

def ofDecimal (d : Decimal) : Binary64 :=
  ofQuotient d.negative (d.mantissa * one) (Nat.pow 10 d.places)

def zero : Binary64 := .finite false 0

def unit : Binary64 := .finite false one

/-- Division by a whole number, correctly rounded. -/
def divNat (x : Binary64) (divisor : Nat) : Binary64 :=
  match x with
  | .finite negative units => ofQuotient negative units divisor
  | other => other

/-- The value of a finite number as a count of units. -/
def signedUnits (negative : Bool) (units : Nat) : Int := if negative then -(units : Int) else units

/-- Order. A NaN is not comparable, and the two zeros are equal. -/
def le : Binary64 → Binary64 → Bool
  | .nan, _ => false
  | _, .nan => false
  | .infinite true, _ => true
  | _, .infinite false => true
  | .infinite false, _ => false
  | _, .infinite true => false
  | .finite n a, .finite m b => signedUnits n a ≤ signedUnits m b

/-- A whole number is greater than `x`, compared exactly. -/
def ltInt (x : Binary64) (n : Int) : Bool :=
  match x with
  | .nan => false
  | .infinite negative => negative
  | .finite negative units => signedUnits negative units < n * (one : Int)

/-- A value from zero to one. -/
def isRatio (x : Binary64) : Bool := le zero x && le x unit

end Binary64

end ScanSetup.Number
