import ScanSetup.Text.Character

set_option autoImplicit false

namespace ScanSetup.Number

open Text

/-- Texts and numbers with more decimal digits than this are not converted into each other. -/
def maxIntegerDigits : Nat := 4300

/-- A sequence of digits in which single underscores may stand between two digits. -/
def groupedDigits? : List Char → Option (List Char)
  | [] => none
  | [c] => if isDigit c then some [c] else none
  | c :: '_' :: rest => if isDigit c then (groupedDigits? rest).map (c :: ·) else none
  | c :: rest => if isDigit c then (groupedDigits? rest).map (c :: ·) else none

def signedValue (negative : Bool) (digits : List Char) : Int :=
  if negative then -(digitsValue digits : Int) else digitsValue digits

/-- Reads a whole number: white space around it, an optional sign, digits in groups. -/
def readInteger? (s : String) : Option Int :=
  let (negative, unsigned) :=
    match trim s.toList with
    | '-' :: rest => (true, rest)
    | '+' :: rest => (false, rest)
    | rest => (false, rest)
  match groupedDigits? unsigned with
  | none => none
  | some digits =>
    if digits.length ≤ maxIntegerDigits then some (signedValue negative digits) else none

/-- The decimal text of a whole number, unless it has too many digits. -/
def integerText? (n : Int) : Option String :=
  if n.natAbs < Nat.pow 10 maxIntegerDigits then some (toString n) else none

end ScanSetup.Number
