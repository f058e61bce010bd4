import ScanSetup.Number.Decimal
import ScanSetup.Text.Case
import ScanSetup.Text.Split

set_option autoImplicit false

namespace ScanSetup.Size

open Text Number

/-- A unit suffix, standing for `base ^ exponent` bytes. -/
structure Unit where
  suffix : String
  base : Nat
  exponent : Nat
  deriving DecidableEq, Repr

def Unit.multiplier (u : Unit) : Nat := u.base.pow u.exponent

/-- The known units: blocks, bytes and words, decimal multiples by one letter, binary ones by
two. -/
def units : List Unit := [
  ⟨"b", 512, 1⟩, ⟨"c", 1, 1⟩, ⟨"e", 1000, 6⟩, ⟨"eb", 1024, 6⟩, ⟨"g", 1000, 3⟩, ⟨"gb", 1024, 3⟩,
  ⟨"k", 1000, 1⟩, ⟨"kb", 1024, 1⟩, ⟨"m", 1000, 2⟩, ⟨"mb", 1024, 2⟩, ⟨"p", 1000, 5⟩,
  ⟨"pb", 1024, 5⟩, ⟨"t", 1000, 4⟩, ⟨"tb", 1024, 4⟩, ⟨"w", 2, 1⟩]

/-- The unit with the given suffix, in any case. -/
def unit? (suffix : String) : Option Unit := units.find? (·.suffix == lower suffix)

inductive Fault
  | notANumber
  | negativeSize
  | unknownUnit
  | rangeInverted
  deriving DecidableEq, Repr

/-- A rejected size or range: the reason and the text it applies to. -/
structure Error where
  fault : Fault
  spec : String
  deriving DecidableEq, Repr

def Fault.message : Fault → String
  | .notANumber => "This does not look like a number"
  | .negativeSize => "Negative sizes are not allowed"
  | .unknownUnit => "Given format specifier not found"
  | .rangeInverted => "Max is smaller than min"

def Error.message (e : Error) : String := e.fault.message

/-- The greatest size that a range reaches by default. -/
def greatest : Nat := Nat.pow 2 64 - 1

def rejected {α : Type} (fault : Fault) (spec : String) : Except (Unread Error) α :=
  .error (.rejected ⟨fault, spec⟩)

/-- Reads a size in bytes. Without a unit the number is rounded, with one the product is
truncated. -/
def parse (spec : String) : Except (Unread Error) Nat :=
  match Decimal.scan? (spec.toList.dropWhile isBlank) with
  | none => rejected .notANumber spec
  | some (number, rest) =>
    if number.isNegative then rejected .negativeSize spec
    else
      match trim rest with
      | [] => .ok number.roundHalfUp
      | suffix =>
        match unit? (String.ofList suffix) with
        | none => rejected .unknownUnit spec
        | some unit =>
          if number.overflows unit.multiplier then .error .overflow
          else .ok (number.scaleDown unit.multiplier)

/-- Reads one side of a range; an empty side stands for `default`. -/
def parseSide (default : Nat) (side : List Char) : Except (Unread Error) Nat :=
  if side.isEmpty then .ok default else parse (String.ofList side)

/-- Reads a range. The first dash divides its sides; the left side fails first. -/
def parseRange (spec : String) : Except (Unread Error) (Nat × Nat) :=
  let (left, right?) := cut '-' spec.toList
  match parseSide 0 left with
  | .error e => .error e
  | .ok least =>
    match parseSide greatest (right?.getD []) with
    | .error e => .error e
    | .ok most => if most < least then rejected .rangeInverted spec else .ok (least, most)

end ScanSetup.Size
