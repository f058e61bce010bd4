import ScanSetup.Proofs.Number.Decimal
import Mathlib.Algebra.Group.Nat.Even
import Mathlib.Algebra.Order.Floor.Semifield
import Mathlib.Data.Nat.Digits.Defs

set_option autoImplicit false

namespace ScanSetup.Number

/-! ### Decimal digits -/

variable {digits n num k : Nat}

/-- The count is found by halving, as long as the number is below the power it starts from. -/
theorem digitCountWithin_le_iff {halvings : Nat} (below : n < 10 ^ 2 ^ halvings) :
    digitCountWithin halvings n ≤ k ↔ n < 10 ^ k := by
  induction halvings generalizing n k with
  | zero =>
    rcases Nat.eq_zero_or_pos n with rfl | positive
    · exact iff_of_true (Nat.zero_le k) (Nat.pow_pos (by decide))
    · simp only [digitCountWithin, positive.ne', ↓reduceIte]
      cases k with
      | zero => exact iff_of_false (by decide) (by simpa using positive.ne')
      | succ k =>
        refine iff_of_true (Nat.le_add_left 1 k) (Nat.lt_of_lt_of_le below ?_)
        exact Nat.pow_le_pow_right (by decide) (by simp)
  | succ halvings ih =>
    have positive : 0 < 10 ^ 2 ^ halvings := Nat.pow_pos (by decide)
    show (if n < 10 ^ 2 ^ halvings then digitCountWithin halvings n
      else 2 ^ halvings + digitCountWithin halvings (n / 10 ^ 2 ^ halvings)) ≤ k ↔ n < 10 ^ k
    split
    · rename_i small
      exact ih small
    · rename_i large
      have back : n / 10 ^ 2 ^ halvings < 10 ^ 2 ^ halvings := by
        rw [Nat.div_lt_iff_lt_mul positive, ← Nat.pow_add, ← Nat.two_mul, ← Nat.pow_succ']
        exact below
      by_cases front : 2 ^ halvings ≤ k
      · obtain ⟨rest, rfl⟩ := Nat.exists_eq_add_of_le front
        rw [Nat.add_le_add_iff_left, ih back, Nat.div_lt_iff_lt_mul positive, Nat.pow_add,
          Nat.mul_comm]
      · have shorter : 10 ^ k ≤ 10 ^ 2 ^ halvings := Nat.pow_le_pow_right (by decide) (by omega)
        exact iff_of_false (by omega) (by omega)

theorem digitCount_le_iff : digitCount n ≤ k ↔ n < 10 ^ k := by
  refine digitCountWithin_le_iff ?_
  have bits : n.log2 + 1 < 2 ^ ((n.log2 + 1).log2 + 1) := Nat.lt_log2_self
  calc n < 2 ^ (n.log2 + 1) := Nat.lt_log2_self
    _ ≤ 2 ^ (2 * 2 ^ (n.log2 + 1).log2) := Nat.pow_le_pow_right (by decide) (by omega)
    _ = 4 ^ 2 ^ (n.log2 + 1).log2 := by rw [Nat.pow_mul]
    _ ≤ 10 ^ 2 ^ (n.log2 + 1).log2 := Nat.pow_le_pow_left (by decide) _

theorem lt_digitCount_iff : k < digitCount n ↔ 10 ^ k ≤ n := by
  rw [← not_le, digitCount_le_iff, not_lt]

theorem digitCount_mono {a b : Nat} (le : a ≤ b) : digitCount a ≤ digitCount b :=
  digitCount_le_iff.mpr (Nat.lt_of_le_of_lt le (digitCount_le_iff.mp le_rfl))

theorem digitCount_div_pow (n k : Nat) : digitCount (n / 10 ^ k) = digitCount n - k := by
  refine eq_of_forall_ge_iff fun bound => ?_
  rw [digitCount_le_iff, Nat.div_lt_iff_lt_mul (Nat.pow_pos (by decide)), ← Nat.pow_add,
    ← digitCount_le_iff, Nat.sub_le_iff_le_add]

theorem digitCount_mul_pow (positive : 0 < n) (k : Nat) :
    digitCount (n * 10 ^ k) = digitCount n + k := by
  have shifted := digitCount_div_pow (n * 10 ^ k) k
  rw [Nat.mul_div_cancel n (Nat.pow_pos (by decide))] at shifted
  have least : 10 ^ k ≤ n * 10 ^ k := Nat.le_mul_of_pos_left _ positive
  have more := lt_digitCount_iff.mpr least
  omega

/-! ### Significant digits -/

/-- The weight of the last digit that rounding keeps. -/
def lastPlace (digits n : Nat) : Nat := 10 ^ (digitCount n - digits)

theorem lastPlace_pos (digits n : Nat) : 0 < lastPlace digits n := Nat.pow_pos (by decide)

theorem roundSignificant_eq (digits n : Nat) :
    roundSignificant digits n = roundDiv .toEven n (lastPlace digits n) * lastPlace digits n := rfl

theorem roundSignificant_of_dvd (dvd : lastPlace digits n ∣ n) : roundSignificant digits n = n := by
  rw [roundSignificant_eq, roundDiv_of_dvd .toEven (lastPlace_pos digits n) dvd,
    Nat.div_mul_cancel dvd]

theorem roundSignificant_of_le (few : digitCount n ≤ digits) : roundSignificant digits n = n := by
  refine roundSignificant_of_dvd ?_
  rw [lastPlace, Nat.sub_eq_zero_of_le few, Nat.pow_zero]
  exact Nat.one_dvd n

theorem roundSignificant_le_pow (digits n : Nat) : roundSignificant digits n ≤ 10 ^ digitCount n :=
  roundDiv_mul_le_of_dvd .toEven (lastPlace_pos digits n) (Nat.pow_dvd_pow 10 (Nat.sub_le _ _))
    (Nat.le_of_lt (digitCount_le_iff.mp le_rfl))

/-- Rounding does not fall below the power of ten that has as many digits. -/
theorem pow_le_roundSignificant (some : 0 < digits) (count : digitCount n = k + 1) :
    10 ^ k ≤ roundSignificant digits n :=
  le_roundDiv_mul_of_dvd .toEven (lastPlace_pos digits n) (Nat.pow_dvd_pow 10 (by omega))
    (lt_digitCount_iff.mp (by omega))

/-- Rounding reaches a power of ten from half of the last place below it on. -/
theorem pow_le_roundSignificant_iff (some : 0 < digits) (least : digits ≤ k) :
    10 ^ k ≤ roundSignificant digits n ↔ 2 * 10 ^ k ≤ 2 * n + 10 ^ (k - digits) := by
  rcases Nat.lt_trichotomy (digitCount n) k with below | same | above
  · have rounded := roundSignificant_le_pow digits n
    have number := digitCount_le_iff.mp (le_refl (digitCount n))
    have most : 10 ^ digitCount n ≤ 10 ^ (k - 1) := Nat.pow_le_pow_right (by decide) (by omega)
    have place : 10 ^ (k - digits) ≤ 10 ^ (k - 1) := Nat.pow_le_pow_right (by decide) (by omega)
    have next : 10 ^ k = 10 * 10 ^ (k - 1) := by
      rw [← Nat.pow_succ', Nat.succ_eq_add_one, Nat.sub_add_cancel (by omega)]
    have positive : 0 < 10 ^ (k - 1) := Nat.pow_pos (by decide)
    exact iff_of_false (by omega) (by omega)
  · have last : lastPlace digits n = 10 ^ (k - digits) := by rw [lastPlace, same]
    have positive : 0 < 10 ^ (k - digits) := Nat.pow_pos (by decide)
    have scale : 10 ^ k = 10 ^ digits * 10 ^ (k - digits) := by
      rw [← Nat.pow_add, Nat.add_sub_cancel' least]
    have even : 10 ^ digits % 2 = 0 :=
      Nat.mod_eq_zero_of_dvd (dvd_pow (by decide : 2 ∣ 10) some.ne')
    rw [roundSignificant_eq, last, scale, Nat.mul_le_mul_right_iff positive,
      le_roundDiv_toEven_iff positive even]
  · have number := lt_digitCount_iff.mp above
    obtain ⟨more, count⟩ : ∃ more, digitCount n = more + 1 := ⟨digitCount n - 1, by omega⟩
    have rounded := pow_le_roundSignificant some count
    have power : 10 ^ k ≤ 10 ^ more := Nat.pow_le_pow_right (by decide) (by omega)
    exact iff_of_true (Nat.le_trans power rounded)
      (Nat.le_trans (Nat.mul_le_mul_left 2 number) (Nat.le_add_right _ _))

theorem roundSignificant_mono (some : 0 < digits) {a b : Nat} (le : a ≤ b) :
    roundSignificant digits a ≤ roundSignificant digits b := by
  have counts := digitCount_mono le
  by_cases same : digitCount a = digitCount b
  · rw [roundSignificant_eq, roundSignificant_eq, lastPlace, lastPlace, same]
    exact Nat.mul_le_mul_right _ (roundDiv_mono .toEven _ le)
  · -- A power of ten lies between numbers with different counts of digits.
    obtain ⟨k, count⟩ : ∃ k, digitCount b = k + 1 := ⟨digitCount b - 1, by omega⟩
    calc roundSignificant digits a ≤ 10 ^ digitCount a := roundSignificant_le_pow digits a
      _ ≤ 10 ^ k := Nat.pow_le_pow_right (by decide) (by omega)
      _ ≤ roundSignificant digits b := pow_le_roundSignificant some count

theorem roundSignificant_mul_pow (digits n k : Nat) :
    roundSignificant digits (n * 10 ^ k) = roundSignificant digits n * 10 ^ k := by
  rcases Nat.eq_zero_or_pos n with rfl | positive
  · rw [Nat.zero_mul, roundSignificant_of_dvd (Nat.dvd_zero _), Nat.zero_mul]
  have count := digitCount_mul_pow positive k
  by_cases few : digitCount n ≤ digits
  · have dvd : lastPlace digits (n * 10 ^ k) ∣ n * 10 ^ k :=
      Nat.dvd_mul_left_of_dvd (Nat.pow_dvd_pow 10 (by omega)) n
    rw [roundSignificant_of_le few, roundSignificant_of_dvd dvd]
  · have place : lastPlace digits (n * 10 ^ k) = lastPlace digits n * 10 ^ k := by
      rw [lastPlace, lastPlace, ← Nat.pow_add, count]
      congr 1
      omega
    rw [roundSignificant_eq, place, roundDiv_mul_right .toEven _ _ (Nat.pow_pos (by decide)),
      ← Nat.mul_assoc, ← roundSignificant_eq]

/-! ### Whole parts -/

/-- Rounding to significant digits does not change the whole part of `num / 10 ^ places`. If the
whole part has more digits, those behind are zeros. Otherwise the next whole number is farther away
than half of the last place, or just as far while the last digit that is kept is even. -/
def KeepsWhole (digits num places : Nat) : Prop :=
  let whole := num / 10 ^ places
  let gap := (whole + 1) * 10 ^ places - num
  if digits < digitCount whole then 10 ^ (digitCount whole - digits) ∣ whole
  else
    lastPlace digits num < 2 * gap ∨
      lastPlace digits num = 2 * gap ∧ Even (num / lastPlace digits num)

instance (digits num places : Nat) : Decidable (KeepsWhole digits num places) :=
  inferInstanceAs (Decidable (if digits < digitCount (num / 10 ^ places) then _ else _ ∨ _))

/-- Halves go up exactly from odd quotients. -/
theorem roundDiv_toEven_eq (num den : Nat) :
    roundDiv .toEven num den =
      if den < 2 * (num % den) ∨ den = 2 * (num % den) ∧ ¬Even (num / den) then num / den + 1
      else num / den := by
  unfold roundDiv
  simp only [Nat.not_even_iff]
  split_ifs <;> omega

/-- Rounding at a multiple of `scale` keeps the count of `scale` if it is such a multiple. -/
theorem roundDiv_div_eq_iff_dvd {scale factor : Nat} (scale_pos : 0 < scale) (more : 2 ≤ factor) :
    roundDiv .toEven num (scale * factor) * (scale * factor) / scale = num / scale ↔
      factor ∣ num / scale := by
  rw [Nat.mul_comm scale factor, ← Nat.mul_assoc, Nat.mul_div_cancel _ scale_pos]
  constructor
  · intro same
    rw [← same]
    exact Nat.dvd_mul_left _ _
  · intro dvd
    have rest : num % (scale * factor) = num % scale := by
      rw [Nat.mod_mul, Nat.mod_eq_zero_of_dvd dvd, Nat.mul_zero, Nat.add_zero]
    have below : 2 * (num % scale) < scale * factor := by
      have bound := Nat.mod_lt num scale_pos
      have double := Nat.mul_le_mul_left scale more
      omega
    rw [Nat.mul_comm factor scale, roundDiv]
    simp only [rest, below, ↓reduceIte]
    rw [← Nat.div_div_eq_div_mul, Nat.div_mul_cancel dvd]

/-- Above `n` the multiples of `factor` continue, and counting on reaches a further one if it is
the next number. -/
theorem next_multiple {factor : Nat} (n : Nat) (factor_pos : 0 < factor) :
    n + 1 ≤ (n / factor + 1) * factor ∧
      ((n + 1) / factor = n / factor ↔ (n / factor + 1) * factor ≠ n + 1) := by
  have above : n < factor * (n / factor + 1) := Nat.lt_mul_div_succ n factor_pos
  rw [Nat.mul_comm] at above
  refine ⟨above, ?_⟩
  rw [Nat.succ_div]
  split
  · rename_i dvd
    have reached := Nat.div_mul_cancel dvd
    rw [Nat.succ_div, if_pos dvd] at reached
    simp [reached]
  · rename_i inside
    have other : (n / factor + 1) * factor ≠ n + 1 := fun same =>
      inside ⟨_, by rw [← same, Nat.mul_comm]⟩
    simp [other]

/-- Rounding at `last` keeps the count of a multiple of `last` unless the next one is reached. -/
theorem roundDiv_div_eq_iff_gap {last factor : Nat} (last_pos : 0 < last)
    (factor_pos : 0 < factor) :
    roundDiv .toEven num last * last / (last * factor) = num / (last * factor) ↔
      last < 2 * ((num / (last * factor) + 1) * (last * factor) - num) ∨
        last = 2 * ((num / (last * factor) + 1) * (last * factor) - num) ∧ Even (num / last) := by
  have split := Nat.div_add_mod num last
  have rest := Nat.mod_lt num last_pos
  obtain ⟨above, carried⟩ := next_multiple (num / last) factor_pos
  rw [Nat.mul_comm (roundDiv _ _ _), Nat.mul_div_mul_left _ _ last_pos, ← Nat.div_div_eq_div_mul,
    Nat.mul_comm last factor, ← Nat.mul_assoc, roundDiv_toEven_eq]
  generalize below : num / last / factor = whole at above carried ⊢
  generalize (whole + 1) * factor = next at above carried ⊢
  rw [Nat.mul_comm] at split
  by_cases reached : next = num / last + 1
  · -- The next multiple is one step away, so only rounding down keeps the count.
    have gap : next * last - num = last - num % last := by
      rw [reached, Nat.succ_mul]
      omega
    rw [gap]
    by_cases up : last < 2 * (num % last) ∨ last = 2 * (num % last) ∧ ¬Even (num / last)
    · rw [if_pos up, carried]
      refine iff_of_false (not_not_intro reached) ?_
      rintro (far | ⟨middle, even⟩)
      · omega
      · exact up.elim (by omega) fun tie => tie.2 even
    · rw [if_neg up, below]
      refine iff_of_true rfl ?_
      by_cases even : Even (num / last)
      · simp only [even, not_true_eq_false, and_false, or_false, and_true] at up ⊢
        omega
      · simp only [even, not_false_eq_true, and_true, and_false, or_false] at up ⊢
        omega
  · have far : (num / last + 2) * last ≤ next * last := Nat.mul_le_mul_right last (by omega)
    rw [Nat.add_mul] at far
    refine iff_of_true ?_ (.inl (by omega))
    split_ifs
    · exact carried.mpr reached
    · exact below

/-- Rounding changes no whole part but those that `KeepsWhole` leaves out. -/
theorem roundSignificant_div_eq_iff (digits num places : Nat) :
    roundSignificant digits num / 10 ^ places = num / 10 ^ places ↔
      KeepsWhole digits num places := by
  have count := digitCount_div_pow num places
  simp only [KeepsWhole, roundSignificant_eq]
  split
  · rename_i long
    have last : lastPlace digits num =
        10 ^ places * 10 ^ (digitCount (num / 10 ^ places) - digits) := by
      rw [lastPlace, ← Nat.pow_add, count]
      congr 1
      omega
    have more : 2 ≤ 10 ^ (digitCount (num / 10 ^ places) - digits) :=
      Nat.le_trans (by decide : 2 ≤ 10 ^ 1) (Nat.pow_le_pow_right (by decide) (by omega))
    rw [last]
    exact roundDiv_div_eq_iff_dvd (Nat.pow_pos (by decide)) more
  · rename_i short
    have scale : 10 ^ places =
        lastPlace digits num * 10 ^ (places - (digitCount num - digits)) := by
      rw [lastPlace, ← Nat.pow_add]
      congr 1
      omega
    rw [scale]
    exact roundDiv_div_eq_iff_gap (lastPlace_pos digits num) (Nat.pow_pos (by decide))

/-! ### Products -/

namespace Decimal

variable {d e : Decimal}

theorem floor_value_mul (nonnegative : ¬d.value < 0) (factor : Nat) :
    ⌊d.value * factor⌋₊ = d.mantissa * factor / 10 ^ d.places := by
  rw [value_of_nonnegative d nonnegative, div_mul_eq_mul_div, ← Nat.cast_mul, Nat.floor_div_eq_div]

/-- A product is the floor of the exact one if rounding keeps its whole part, and only then. -/
theorem scaleDown_eq_floor_iff (nonnegative : ¬d.value < 0) (factor : Nat) :
    d.scaleDown factor = ⌊d.value * factor⌋₊ ↔
      KeepsWhole productDigits (d.mantissa * factor) d.places := by
  rw [floor_value_mul nonnegative]
  exact roundSignificant_div_eq_iff productDigits (d.mantissa * factor) d.places

theorem scaleDown_eq_floor (nonnegative : ¬d.value < 0) {factor : Nat}
    (few : d.mantissa * factor < 10 ^ productDigits) :
    d.scaleDown factor = ⌊d.value * factor⌋₊ := by
  rw [floor_value_mul nonnegative, scaleDown, product,
    roundSignificant_of_le (digitCount_le_iff.mpr few)]
  rfl

/-- A product is the same with zeros behind the fraction. -/
theorem scaleDown_eq_extended (d : Decimal) (factor k : Nat) :
    d.scaleDown factor =
      roundSignificant productDigits (d.mantissa * 10 ^ k * factor) / 10 ^ (d.places + k) := by
  rw [Nat.mul_right_comm, roundSignificant_mul_pow, Nat.pow_add,
    Nat.mul_div_mul_right _ _ (Nat.pow_pos (by decide))]
  rfl

theorem nonnegative_of_le (nonnegative : ¬d.value < 0) (ordered : d.value ≤ e.value) :
    ¬e.value < 0 :=
  fun negative => nonnegative (lt_of_le_of_lt ordered negative)

/-- Numbers are compared with as many places as both have. -/
theorem mantissa_le_of_value_le (nonnegative : ¬d.value < 0) (ordered : d.value ≤ e.value) :
    d.mantissa * 10 ^ e.places ≤ e.mantissa * 10 ^ d.places := by
  have later := nonnegative_of_le nonnegative ordered
  have power (k : Nat) : (0 : ℚ) < (10 ^ k : Nat) := Nat.cast_pos.mpr (Nat.pow_pos (by decide))
  rw [value_of_nonnegative d nonnegative, value_of_nonnegative e later,
    div_le_div_iff₀ (power _) (power _)] at ordered
  exact_mod_cast ordered

theorem scaleDown_mono (nonnegative : ¬d.value < 0) (ordered : d.value ≤ e.value) (factor : Nat) :
    d.scaleDown factor ≤ e.scaleDown factor := by
  have le := mantissa_le_of_value_le nonnegative ordered
  rw [scaleDown_eq_extended d factor e.places, scaleDown_eq_extended e factor d.places,
    Nat.add_comm e.places]
  exact Nat.div_le_div_right
    (roundSignificant_mono (by decide) (Nat.mul_le_mul_right factor le))

/-- The products from here on are rounded to a power of ten that has no exponent. -/
def productLimit : ℚ :=
  (10 ^ productDigits - 1 / 2) * 10 ^ (maxExponent + 1 - productDigits)

theorem overflows_iff_scaleDown (d : Decimal) (factor : Nat) :
    d.overflows factor = true ↔ 10 ^ (maxExponent + 1) ≤ d.scaleDown factor := by
  rw [overflows, decide_eq_true_iff, lt_digitCount_iff, Nat.pow_add]
  exact (Nat.le_div_iff_mul_le (Nat.pow_pos (by decide))).symm

/-- A product overflows exactly if the exact one reaches the limit. -/
theorem overflows_iff (nonnegative : ¬d.value < 0) (factor : Nat) :
    d.overflows factor = true ↔ productLimit ≤ d.value * factor := by
  obtain ⟨exponent, split⟩ : ∃ exponent, maxExponent + 1 = productDigits + exponent :=
    ⟨maxExponent + 1 - productDigits, by simp only [productDigits, maxExponent]⟩
  have shift : productDigits + exponent + d.places - productDigits = exponent + d.places := by
    omega
  have power : (0 : ℚ) < (10 ^ d.places : Nat) := Nat.cast_pos.mpr (Nat.pow_pos (by decide))
  rw [overflows, decide_eq_true_iff, lt_digitCount_iff, product, split,
    pow_le_roundSignificant_iff (by decide) (by omega), shift, value_of_nonnegative d nonnegative,
    productLimit, split, Nat.add_sub_cancel_left, div_mul_eq_mul_div, le_div_iff₀ power,
    ← Nat.cast_le (α := ℚ)]
  push_cast
  rw [pow_add, pow_add, pow_add]
  constructor
  · intro reached
    linarith
  · intro reached
    linarith

theorem roundHalfUp_mono (nonnegative : ¬d.value < 0) (ordered : d.value ≤ e.value) :
    d.roundHalfUp ≤ e.roundHalfUp := by
  have later := nonnegative_of_le nonnegative ordered
  rw [d.roundHalfUp_eq_floor nonnegative, e.roundHalfUp_eq_floor later]
  exact Nat.floor_le_floor (add_le_add_left ordered _)

end Decimal

end ScanSetup.Number
