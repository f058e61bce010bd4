import ScanSetup.Number.Binary64.Writing
import ScanSetup.Size

set_option autoImplicit false

namespace ScanSetup

open Text Number

/-- A boundary of the read window. -/
inductive Clamp
  | absolute (offset : Int)
  | fractional (ratio : Binary64)
  deriving DecidableEq, Repr

namespace Clamp

/-- The start and the end of a file. -/
def fileStart : Clamp := .fractional Binary64.zero

def fileEnd : Clamp := .fractional Binary64.unit

/-- An offset is not negative, a fraction lies between zero and one. -/
def isValid : Clamp → Bool
  | .absolute offset => 0 ≤ offset
  | .fractional ratio => ratio.isRatio

inductive Error
  /-- The factor is malformed from `rest` on. -/
  | badFactor (spec rest : String)
  | factorOutOfRange (factor : Binary64)
  | badOffset (spec : String) (cause : Size.Fault)
  deriving DecidableEq, Repr

def Error.message : Error → String
  | .badFactor spec rest => "Unable to parse factor \"" ++ spec ++ "\": error begins at " ++ rest
  | .factorOutOfRange factor => "factor value is not in range [0-1]: " ++ factor.fixedText 6
  | .badOffset spec cause => "Unable to parse offset \"" ++ spec ++ "\": " ++ cause.message

/-- A text with a point, or with a percent sign at its end, denotes a fraction. -/
def isFractionalSpec (spec : String) : Bool :=
  spec.toList.contains '.' || spec.toList.getLast? == some '%'

/-- A factor of the whole length lies between zero and one. -/
def checkFactor (factor : Binary64) : Except Error Binary64 :=
  if factor.isRatio then .ok factor else .error (.factorOutOfRange factor)

/-- Reads a fraction; a percent sign divides the number by a hundred. -/
def parseFactor (spec : String) : Except Error Binary64 :=
  match Decimal.scan? (spec.toList.dropWhile isBlank) with
  | none => .error (.badFactor spec spec)
  | some (number, rest) =>
    match rest with
    | [] => checkFactor (Binary64.ofDecimal number)
    | ['%'] => checkFactor ((Binary64.ofDecimal number).divNat 100)
    | _ => .error (.badFactor spec (String.ofList rest))

def parse (spec : String) : Except (Unread Error) Clamp :=
  if isFractionalSpec spec then
    match parseFactor spec with
    | .ok ratio => .ok (.fractional ratio)
    | .error e => .error (.rejected e)
  else
    match Size.parse spec with
    | .ok offset => .ok (.absolute offset)
    | .error (.rejected e) => .error (.rejected (.badOffset spec e.fault))
    | .error .overflow => .error .overflow

/-- The start boundary does not lie before the end boundary. Boundaries of different kinds are not
compared. -/
def inverted : Clamp → Clamp → Bool
  | .absolute start, .absolute stop => stop ≤ start
  | .fractional start, .fractional stop => stop.le start
  | _, _ => false

end Clamp

end ScanSetup
