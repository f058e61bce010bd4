import ScanSetup.Proofs.Size.Product
import ScanSetup.Proofs.Size.Range

set_option autoImplicit false

namespace ScanSetup.Size

open Text Number

variable {left right : String} {front back : List Char} {d e : Decimal}

theorem bytes_mono (same : lower (String.ofList front) = lower (String.ofList back))
    (nonnegative : ¬d.value < 0) (ordered : d.value ≤ e.value) : bytes d front ≤ bytes e back := by
  have unit : unit? (String.ofList front) = unit? (String.ofList back) := by
    rw [unit?, unit?, same]
  unfold bytes
  rw [unit]
  cases unit? (String.ofList back) with
  | none => exact Decimal.roundHalfUp_mono nonnegative ordered
  | some unit => exact Decimal.scaleDown_mono nonnegative ordered unit.multiplier

theorem overflows_mono (same : lower (String.ofList front) = lower (String.ofList back))
    (ordered : d.value ≤ e.value) (exceeds : Overflows d front) : Overflows e back := by
  obtain ⟨unit, member, named, reached⟩ := exceeds
  have scaled : d.value * unit.multiplier ≤ e.value * unit.multiplier :=
    mul_le_mul_of_nonneg_right ordered (Nat.cast_nonneg _)
  exact ⟨unit, member, named.trans same, reached.trans scaled⟩

/-- Two sizes with the same suffix, or without one, are in the order of their numbers. So a range
between them that is written in order is not rejected. Neither is anything rejected if a product is
too large: if one is, the greater number's is, and nothing is read. -/
theorem parse_monotone (first : SizeText left.toList d front)
    (second : SizeText right.toList e back)
    (same : lower (String.ofList front) = lower (String.ofList back))
    (nonnegative : ¬d.value < 0) (ordered : d.value ≤ e.value) :
    bytes d front ≤ bytes e back ∧
      (¬Overflows e back →
        parse left = .ok (bytes d front) ∧ parse right = .ok (bytes e back) ∧
          ('-' ∉ left.toList →
            parseRange (left ++ "-" ++ right) = .ok (bytes d front, bytes e back))) ∧
      (Overflows e back →
        (parse left = .ok (bytes d front) ∨ parse left = .error .overflow) ∧
          parse right = .error .overflow ∧
          ('-' ∉ left.toList → parseRange (left ++ "-" ++ right) = .error .overflow)) := by
  have later := Decimal.nonnegative_of_le nonnegative ordered
  have least := first.parse_eq nonnegative
  have most := second.parse_eq later
  have sizes := bytes_mono same nonnegative ordered
  refine ⟨sizes, fun fits => ?_, fun exceeds => ?_⟩
  · have low := least.1 (mt (overflows_mono same ordered) fits)
    exact ⟨low, most.1 fits, fun absent => parseRange_between absent low (most.1 fits) sizes⟩
  · by_cases both : Overflows d front
    · exact ⟨.inr (least.2 both), most.2 exceeds,
        fun absent => parseRange_of_left_overflow absent (least.2 both)⟩
    · exact ⟨.inl (least.1 both), most.2 exceeds,
        fun absent => parseRange_of_right_overflow absent (least.1 both) (most.2 exceeds)⟩

/-- Both products are carried to a power of ten, from different places. -/
theorem parse_monotone_carried :
    ∃ least most, parse "9999999999999999999999999999.75 C" = .ok least ∧
      parse "٠9999999999999999999999999999.8c" = .ok most ∧ least ≤ most ∧
      parseRange "9999999999999999999999999999.75 C-٠9999999999999999999999999999.8c" =
        .ok (least, most) := by
  have first : SizeText "9999999999999999999999999999.75 C".toList
      ⟨false, 999999999999999999999999999975, 2⟩ (trim " C".toList) :=
    .of_scan? (by decide +kernel) (.inr ((unit?_isSome_iff _).mp (by decide +kernel)))
  have second : SizeText "٠9999999999999999999999999999.8c".toList
      ⟨false, 99999999999999999999999999998, 1⟩ (trim "c".toList) :=
    .of_scan? (by decide +kernel) (.inr ((unit?_isSome_iff _).mp (by decide +kernel)))
  have nonnegative : ¬Decimal.value ⟨false, 99999999999999999999999999998, 1⟩ < 0 := by
    norm_num [Decimal.value]
  have known : unit? (String.ofList (trim "c".toList)) = some ⟨"c", 1, 1⟩ := by decide +kernel
  have fits : ¬Overflows ⟨false, 99999999999999999999999999998, 1⟩ (trim "c".toList) := by
    rw [overflows_iff nonnegative known]
    decide +kernel
  obtain ⟨ordered, read, -⟩ := parse_monotone first second (by decide +kernel)
    (by norm_num [Decimal.value]) (by norm_num [Decimal.value])
  obtain ⟨low, high, range⟩ := read fits
  exact ⟨_, _, low, high, ordered, range (by decide)⟩

end ScanSetup.Size
