import ScanSetup.Text.Character

set_option autoImplicit false

namespace ScanSetup.Number

open Text

/-- Where a value halfway between two whole numbers goes. -/
inductive Tie
  | up
  | toEven
  deriving DecidableEq, Repr

/-- `num / den` rounded to the nearest whole number. -/
def roundDiv (tie : Tie) (num den : Nat) : Nat :=
  let quotient := num / den
  let twice := 2 * (num % den)
  if twice < den then quotient
  else if den < twice then quotient + 1
  else
    match tie with
    | .up => quotient + 1
    | .toEven => quotient + quotient % 2

/-- The number of decimal digits of `n`, which has at most `2 ^ halvings`. -/
def digitCountWithin : Nat → Nat → Nat
  | 0, n => if n = 0 then 0 else 1
  | halvings + 1, n =>
    let half := Nat.pow 2 halvings
    let power := Nat.pow 10 half
    if n < power then digitCountWithin halvings n else half + digitCountWithin halvings (n / power)

/-- The number of decimal digits of `n`; zero has none. -/
def digitCount (n : Nat) : Nat := digitCountWithin (n.log2 + 1).log2 n

/-- `n` rounded to `digits` significant decimal digits, a tie going to the even neighbour. -/
def roundSignificant (digits n : Nat) : Nat :=
  let unit := Nat.pow 10 (digitCount n - digits)
  roundDiv .toEven n unit * unit

/-- Why a text is not read: it is rejected, or a product in it overflows. -/
inductive Unread (ε : Type)
  | rejected (error : ε)
  | overflow
  deriving DecidableEq, Repr

/-- The number `mantissa / 10 ^ places`, with a sign that zero has too. -/
structure Decimal where
  negative : Bool
  mantissa : Nat
  places : Nat
  deriving DecidableEq, Repr

namespace Decimal

def takeSign : List Char → Bool × List Char
  | '+' :: rest => (false, rest)
  | '-' :: rest => (true, rest)
  | rest => (false, rest)

/-- The longest number at the start of a text, and what follows it. A number is digits with an
optional point and optional further digits, or a point followed by digits. -/
def scan? (cs : List Char) : Option (Decimal × List Char) :=
  let (negative, unsigned) := takeSign cs
  let whole := unsigned.takeWhile isDigit
  match unsigned.dropWhile isDigit with
  | '.' :: rest =>
    let fraction := rest.takeWhile isDigit
    if whole.isEmpty && fraction.isEmpty then none
    else
      some (⟨negative, digitsValue (whole ++ fraction), fraction.length⟩, rest.dropWhile isDigit)
  | rest => if whole.isEmpty then none else some (⟨negative, digitsValue whole, 0⟩, rest)

/-- Less than zero. A zero with a minus sign is not. -/
def isNegative (d : Decimal) : Bool := d.negative && d.mantissa != 0

/-- The magnitude rounded to a whole number, halves upwards. -/
def roundHalfUp (d : Decimal) : Nat := roundDiv .up d.mantissa (Nat.pow 10 d.places)

/-- The significant digits of a product. -/
def productDigits : Nat := 28

/-- The magnitude times `factor`, rounded, as a whole number of units of the last place. -/
def product (d : Decimal) (factor : Nat) : Nat :=
  roundSignificant productDigits (d.mantissa * factor)

/-- The magnitude times `factor`. The product keeps `productDigits` significant digits; its
fraction is then dropped. -/
def scaleDown (d : Decimal) (factor : Nat) : Nat := d.product factor / Nat.pow 10 d.places

/-- The greatest exponent of a product: that of the power of ten of its leading digit. -/
def maxExponent : Nat := 999999

/-- The rounded product by `factor` is too large for an exponent. -/
def overflows (d : Decimal) (factor : Nat) : Bool :=
  maxExponent + 1 + d.places < digitCount (d.product factor)

end Decimal

end ScanSetup.Number
