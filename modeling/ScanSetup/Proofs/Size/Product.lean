import ScanSetup.Proofs.Size.Grammar

set_option autoImplicit false

namespace ScanSetup.Size

open Text Number

variable {spec : String} {suffix : List Char} {d : Decimal} {unit : Unit}

/-- A product with few digits is exact, and far from being too large. -/
theorem not_overflows_of_few (nonnegative : ¬d.value < 0)
    (few : d.mantissa * unit.multiplier < 10 ^ 28) : d.overflows unit.multiplier = false := by
  have least : ¬10 ^ (Decimal.maxExponent + 1) ≤ d.scaleDown unit.multiplier := by
    rw [Decimal.scaleDown_eq_floor nonnegative few, Decimal.floor_value_mul nonnegative]
    refine not_le.mpr (Nat.lt_of_le_of_lt (Nat.div_le_self _ _) (Nat.lt_of_lt_of_le few ?_))
    exact Nat.pow_le_pow_right (by decide) (by decide)
  rwa [← Decimal.overflows_iff_scaleDown, Bool.not_eq_true] at least

/-- A number that is not negative and a unit are read as a whole number of bytes, unless their
product is too large. This number is the floor of their exact product exactly if rounding to 28
significant digits does not change the whole part of this product; a product that has no more
digits is never changed. -/
theorem parse_product (form : SizeText spec.toList d suffix) (nonnegative : ¬d.value < 0)
    (known : unit ∈ units) (named : unit.suffix = lower (String.ofList suffix)) :
    (Decimal.productLimit ≤ d.value * unit.multiplier → parse spec = .error .overflow) ∧
      (d.value * unit.multiplier < Decimal.productLimit →
        ∃ size, parse spec = .ok size ∧
          (size = ⌊d.value * unit.multiplier⌋₊ ↔
            KeepsWhole 28 (d.mantissa * unit.multiplier) d.places)) ∧
      (d.mantissa * unit.multiplier < 10 ^ 28 →
        parse spec = .ok ⌊d.value * unit.multiplier⌋₊) := by
  have found := unit?_eq_some_iff.mpr ⟨known, named⟩
  have size : bytes d suffix = d.scaleDown unit.multiplier := by rw [bytes, found]
  have large := Decimal.overflows_iff nonnegative unit.multiplier
  obtain ⟨fits, exceeds⟩ := form.parse_eq nonnegative
  rw [overflows_iff nonnegative found, size] at fits
  rw [overflows_iff nonnegative found] at exceeds
  refine ⟨fun reached => exceeds (large.mpr reached), fun below => ?_, fun few => ?_⟩
  · refine ⟨_, fits (mt large.mp (not_le.mpr below)), ?_⟩
    exact Decimal.scaleDown_eq_floor_iff nonnegative unit.multiplier
  · rw [fits (by rw [not_overflows_of_few nonnegative few]; decide),
      Decimal.scaleDown_eq_floor nonnegative few]

def longFraction : Decimal := ⟨false, 1234567890123456789012345678901, 31⟩

/-- The product has 40 digits, of which those behind the point are cut. -/
theorem parse_product_longFraction :
    parse ".1234567890123456789012345678901 GB" = .ok ⌊longFraction.value * (1024 ^ 3 : Nat)⌋₊ := by
  have unit : UnitText ['G', 'B'] := (unit?_isSome_iff _).mp (by decide +kernel)
  have read : Decimal.scan? (".1234567890123456789012345678901 GB".toList.dropWhile isBlank) =
      some (longFraction, [' ', 'G', 'B']) := by decide +kernel
  have form : SizeText ".1234567890123456789012345678901 GB".toList longFraction ['G', 'B'] :=
    .of_scan? read (.inr unit)
  have nonnegative : ¬longFraction.value < 0 := by norm_num [longFraction, Decimal.value]
  have known : (⟨"gb", 1024, 3⟩ : Unit) ∈ units := by decide
  have fits :
      longFraction.value * (Unit.multiplier ⟨"gb", 1024, 3⟩ : Nat) < Decimal.productLimit := by
    rw [← not_le, ← Decimal.overflows_iff nonnegative]
    decide +kernel
  obtain ⟨-, read, -⟩ := parse_product form nonnegative known (by decide +kernel)
  obtain ⟨size, parsed, exact⟩ := read fits
  rw [parsed, exact.mpr (by decide +kernel)]
  rfl

def longNumber : Decimal := ⟨false, 12345678901234567890123456789, 0⟩

/-- A product of 29 digits loses the last one, also in bytes. -/
theorem longNumber_product_rounded :
    SizeText "12345678901234567890123456789c".toList longNumber ['c'] ∧
      (⟨"c", 1, 1⟩ : Unit) ∈ units ∧
      parse "12345678901234567890123456789c" = .ok 12345678901234567890123456790 ∧
      ⌊longNumber.value * (Unit.multiplier ⟨"c", 1, 1⟩ : Nat)⌋₊ =
        12345678901234567890123456789 := by
  have unit : UnitText ['c'] := (unit?_isSome_iff _).mp (by decide +kernel)
  have read : Decimal.scan? ("12345678901234567890123456789c".toList.dropWhile isBlank) =
      some (longNumber, ['c']) := by decide +kernel
  refine ⟨.of_scan? read (.inr unit), by decide, by decide +kernel, ?_⟩
  norm_num [longNumber, Decimal.value, Unit.multiplier]

end ScanSetup.Size
