import ScanSetup.Number.Binary64
import ScanSetup.Number.Integer
import ScanSetup.Text.Case

set_option autoImplicit false

namespace ScanSetup.Number.Binary64

open Text

/-- The decimal exponent that ends a text; an empty text stands for zero. -/
def readExponent? : List Char → Option Int
  | [] => some 0
  | c :: rest =>
    if c == 'e' || c == 'E' then
      let (negative, digits) := Decimal.takeSign rest
      if digits.isEmpty || !digits.all isDigit then none
      else some (signedValue negative digits)
    else none

/-- Decimal exponents beyond this bound decide the result alone. -/
def exponentBound : Nat := 400

/-- The number nearest to `d * 10 ^ exponent`. -/
def ofScaled (d : Decimal) (exponent : Int) : Binary64 :=
  let power := exponent - d.places
  let leading := power + digitCount d.mantissa
  if d.mantissa = 0 then .finite d.negative 0
  else if (exponentBound : Int) < leading then .infinite d.negative
  else if leading < -(exponentBound : Int) then .finite d.negative 0
  else if 0 ≤ power then ofQuotient d.negative (d.mantissa * Nat.pow 10 power.toNat * one) 1
  else ofQuotient d.negative (d.mantissa * one) (Nat.pow 10 (-power).toNat)

/-- Reads a number; infinities and NaN have names. -/
def read? (s : String) : Option Binary64 :=
  let cs := trim s.toList
  match Decimal.scan? cs with
  | some (d, rest) => (readExponent? rest).map (ofScaled d)
  | none =>
    let (negative, unsigned) := Decimal.takeSign cs
    match lower (String.ofList unsigned) with
    | "inf" => some (.infinite negative)
    | "infinity" => some (.infinite negative)
    | "nan" => some .nan
    | _ => none

end ScanSetup.Number.Binary64
