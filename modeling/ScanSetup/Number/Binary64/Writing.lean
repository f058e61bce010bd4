import ScanSetup.Number.Binary64

set_option autoImplicit false

namespace ScanSetup.Number.Binary64

/-- The reals that round to one number, in quarters of a unit. The ends belong to it when the
significand is even. -/
structure Interval where
  low : Nat
  high : Nat
  closed : Bool

/-- The interval of a positive number. Below a power of two the neighbour is half as far away. -/
def interval (units : Nat) : Interval :=
  let step := spacing units
  let below := if 1 < step ∧ units = Nat.pow 2 units.log2 then step else 2 * step
  ⟨4 * units - below, 4 * units + 2 * step, units / step % 2 == 0⟩

/-- The fraction `num / den` quarters lies in the interval. -/
def Interval.holds (i : Interval) (num den : Nat) : Bool :=
  if i.closed then i.low * den ≤ num && num ≤ i.high * den
  else i.low * den < num && num < i.high * den

/-- The value `digits * 10 ^ exponent`. -/
structure Digits where
  digits : Nat
  exponent : Int
  deriving DecidableEq, Repr

/-- `10 ^ e` units as a fraction. -/
def powerOfTen (e : Int) : Nat × Nat :=
  if 0 ≤ e then (Nat.pow 10 e.toNat * one, 1) else (one, Nat.pow 10 (-e).toNat)

/-- The neighbours of a number on the grid of multiples of `10 ^ exponent`: the nearest one that
reads back, if any does. A tie goes to the even neighbour. -/
def onGrid? (units : Nat) (exponent : Int) : Option Digits :=
  let (num, den) := powerOfTen exponent
  let i := interval units
  let low := units * den / num
  let reads := fun (n : Nat) => i.holds (4 * n * num) den
  let nearest := roundDiv .toEven (units * den) num
  let other := if nearest = low then low + 1 else low
  if reads nearest then some ⟨nearest, exponent⟩
  else if reads other then some ⟨other, exponent⟩
  else none

/-- The exponent `e` for which the number lies in `[10 ^ e, 10 ^ (e + 1))`. Below one the leading
digit stands behind as many zeros as the reciprocal has digits. -/
def decimalExponent (units : Nat) : Int :=
  let whole := units / one
  if 0 < whole then (Nat.toDigits 10 whole).length - 1
  else -((Nat.toDigits 10 ((one - 1) / units)).length : Int)

/-- The digits of a positive number: the coarsest grid with a neighbour that reads back. The grid
of seventeen digits always has one. -/
def shortest (units : Nat) : Digits :=
  let e := decimalExponent units
  ((List.range 17).findSome? fun (n : Nat) => onGrid? units (e - n)).getD
    ⟨roundDiv .toEven units (powerOfTen (e - 16)).1, e - 16⟩

/-- The digits without zeros at the end. -/
def Digits.stripZeros (fuel : Nat) (d : Digits) : Digits :=
  match fuel with
  | 0 => d
  | fuel + 1 =>
    if d.digits ≠ 0 ∧ d.digits % 10 = 0 then
      Digits.stripZeros fuel ⟨d.digits / 10, d.exponent + 1⟩
    else d

/-- Decisions about the written form of a number. -/
structure TextStyle where
  /-- The least power of ten that is written with a point. -/
  leastPositional : Int
  /-- The first power of ten that is written with an exponent again. -/
  firstScientific : Int
  /-- The least number of digits of an exponent. -/
  exponentDigits : Nat

/-- Numbers from `10 ^ -4` to below `10 ^ 16` are written with a point, others with an exponent of
at least two digits. -/
def textStyle : TextStyle := ⟨-4, 16, 2⟩

/-- The text with zeros in front up to `width` characters. -/
def padZeros (width : Nat) (s : String) : String :=
  String.ofList (List.replicate (width - s.length) '0') ++ s

/-- A positional text: at least one digit on both sides of the point. -/
def positional (digits : String) (power : Int) : String :=
  if power < 0 then "0." ++ String.ofList (List.replicate (-power - 1).toNat '0') ++ digits
  else
    let cs := digits.toList
    let whole := (power + 1).toNat
    if cs.length ≤ whole then
      digits ++ String.ofList (List.replicate (whole - cs.length) '0') ++ ".0"
    else String.ofList (cs.take whole) ++ "." ++ String.ofList (cs.drop whole)

def scientific (style : TextStyle) (digits : String) (power : Int) : String :=
  let significand :=
    match digits.toList with
    | [] => ""
    | [c] => String.singleton c
    | c :: rest => String.singleton c ++ "." ++ String.ofList rest
  let sign := if power < 0 then "-" else "+"
  significand ++ "e" ++ sign ++ padZeros style.exponentDigits (toString power.natAbs)

def magnitudeText (style : TextStyle) (units : Nat) : String :=
  if units = 0 then "0.0"
  else
    let d := (shortest units).stripZeros 17
    let digits := toString d.digits
    let power := d.exponent + digits.length - 1
    if style.leastPositional ≤ power ∧ power < style.firstScientific then positional digits power
    else scientific style digits power

/-- The shortest text that reads back as the number. -/
def text : Binary64 → String
  | .nan => "nan"
  | .infinite negative => if negative then "-inf" else "inf"
  | .finite negative units => (if negative then "-" else "") ++ magnitudeText textStyle units

/-- A magnitude with `places` decimals; a tie goes to the even neighbour. -/
def fixedMagnitude (places units : Nat) : String :=
  let scale := Nat.pow 10 places
  let scaled := roundDiv .toEven (units * scale) one
  toString (scaled / scale) ++ "." ++ padZeros places (toString (scaled % scale))

/-- The number with `places` decimals and all digits in front of the point. -/
def fixedText (places : Nat) : Binary64 → String
  | .nan => "nan"
  | .infinite negative => if negative then "-inf" else "inf"
  | .finite negative units => (if negative then "-" else "") ++ fixedMagnitude places units

end ScanSetup.Number.Binary64
