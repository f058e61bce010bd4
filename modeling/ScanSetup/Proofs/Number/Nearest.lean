import ScanSetup.Proofs.Number.Binary64
import ScanSetup.Proofs.Number.Decimal
import Mathlib.Algebra.Group.Nat.Even
import Mathlib.Data.Nat.Cast.Order.Field

set_option autoImplicit false

namespace ScanSetup.Number

/-- Rounding moves a quotient by half at most, and by exactly half only to an even number. -/
theorem roundDiv_toEven_bounds (num : Nat) {den : Nat} (positive : 0 < den) :
    2 * num ≤ 2 * (roundDiv .toEven num den * den) + den ∧
      2 * (roundDiv .toEven num den * den) ≤ 2 * num + den ∧
      (roundDiv .toEven num den % 2 = 1 →
        2 * num < 2 * (roundDiv .toEven num den * den) + den ∧
          2 * (roundDiv .toEven num den * den) < 2 * num + den) := by
  have whole := Nat.div_add_mod num den
  have rest := Nat.mod_lt num positive
  rw [Nat.mul_comm] at whole
  have next : (num / den + 1) * den = num / den * den + den := Nat.succ_mul _ _
  unfold roundDiv
  dsimp only
  split
  · omega
  · split
    · omega
    · rcases Nat.mod_two_eq_zero_or_one (num / den) with even | odd
      · rw [even, Nat.add_zero]
        omega
      · rw [odd]
        omega

namespace Binary64

/-- A magnitude with a significand of `precision` bits, whatever its exponent. -/
def Significand (significand units : Nat) : Prop :=
  significand < 2 ^ precision ∧ ∃ exponent, units = significand * 2 ^ exponent

/-- The magnitude nearest to `v`, both in units. Of two that are as near, it is the one with an even
significand. -/
structure Rounded (v : ℚ) (units : Nat) : Prop where
  significand : ∃ significand, Significand significand units
  nearest : ∀ other significand, Significand significand other → |v - units| ≤ |v - other|
  even : ∀ other significand, Significand significand other → other ≠ units →
    |v - units| = |v - other| → ∃ significand, Even significand ∧ Significand significand units

/-- The double-precision number nearest to a magnitude with a sign. It is infinite if the magnitude
is rounded out of range. -/
inductive Nearest (v : ℚ) (negative : Bool) : Binary64 → Prop
  | finite {units : Nat} (rounded : Rounded (v * one) units) (range : units < overflowUnits) :
      Nearest v negative (.finite negative units)
  | infinite {units : Nat} (rounded : Rounded (v * one) units) (beyond : overflowUnits ≤ units) :
      Nearest v negative (.infinite negative)

variable {v : ℚ} {negative : Bool} {a b : Nat} {x y : Binary64}

/-! ### The relation determines its result -/

/-- Between two magnitudes that are as near there is no other one. -/
theorem Rounded.no_between (first : Rounded v a) (second : Rounded v b) {c significand : Nat}
    (written : Significand significand c) (above : a < c) : b ≤ c := by
  by_contra below
  have left := first.nearest c significand written
  have right := second.nearest c significand written
  have low : (a : ℚ) < c := Nat.cast_lt.mpr above
  have high : (c : ℚ) < b := Nat.cast_lt.mpr (not_le.mp below)
  rcases le_total v c with before | behind
  · rw [abs_of_nonpos (by linarith : v - b ≤ 0), abs_of_nonpos (by linarith : v - c ≤ 0)] at right
    linarith
  · rw [abs_of_nonneg (by linarith : 0 ≤ v - a), abs_of_nonneg (by linarith : 0 ≤ v - c)] at left
    linarith

theorem Rounded.not_lt (first : Rounded v a) (second : Rounded v b) : ¬a < b := by
  intro less
  obtain ⟨s, below⟩ := first.significand
  obtain ⟨t, above⟩ := second.significand
  have tie : |v - a| = |v - b| :=
    le_antisymm (first.nearest b t above) (second.nearest a s below)
  obtain ⟨s, ⟨half, twice⟩, small, e, low⟩ := first.even b t above (Nat.ne_of_gt less) tie
  obtain ⟨t, ⟨other_half, other_twice⟩, other_small, f, high⟩ :=
    second.even a s ⟨small, e, low⟩ (Nat.ne_of_lt less) tie.symm
  have room : precision ≠ 0 := by decide
  obtain ⟨power, full⟩ : ∃ power, 2 ^ precision = 2 * power :=
    ⟨2 ^ (precision - 1), by
      rw [← Nat.pow_succ', Nat.succ_eq_add_one, Nat.sub_add_cancel (by omega)]⟩
  -- The neighbours of both on the side of the other are magnitudes too.
  have after : b ≤ (s + 1) * 2 ^ e := by
    have grows : a < (s + 1) * 2 ^ e := by
      rw [low]
      exact Nat.mul_lt_mul_of_pos_right (Nat.lt_succ_self s) (Nat.two_pow_pos e)
    exact first.no_between second ⟨by omega, e, rfl⟩ grows
  have before : (t - 1) * 2 ^ f ≤ a := by
    by_contra inside
    have again := first.no_between second ⟨by omega, f, rfl⟩ (not_le.mp inside)
    rw [high] at again less
    have positive : 0 < t := Nat.pos_of_ne_zero fun zero => by simp [zero] at less
    exact absurd (Nat.le_of_mul_le_mul_right again (Nat.two_pow_pos f)) (by omega)
  -- Both are multiples of a power of two that is more than their distance.
  have dvd_low : 2 ^ (min e f + 1) ∣ a := by
    rw [low, twice, ← Nat.two_mul, Nat.mul_comm 2, Nat.mul_assoc, ← Nat.pow_succ']
    exact Nat.dvd_mul_left_of_dvd (Nat.pow_dvd_pow 2 (by omega)) half
  have dvd_high : 2 ^ (min e f + 1) ∣ b := by
    rw [high, other_twice, ← Nat.two_mul, Nat.mul_comm 2, Nat.mul_assoc, ← Nat.pow_succ']
    exact Nat.dvd_mul_left_of_dvd (Nat.pow_dvd_pow 2 (by omega)) other_half
  have apart := Nat.le_of_dvd (Nat.sub_pos_of_lt less) (Nat.dvd_sub dvd_high dvd_low)
  have close : b - a ≤ 2 ^ min e f := by
    rcases Nat.le_total e f with least | least
    · rw [Nat.min_eq_left least]
      rw [Nat.succ_mul, ← low] at after
      omega
    · rw [Nat.min_eq_right least]
      rw [Nat.sub_mul, ← high, Nat.one_mul] at before
      omega
  rw [Nat.pow_succ] at apart
  have positive := Nat.two_pow_pos (min e f)
  omega

theorem Rounded.unique (first : Rounded v a) (second : Rounded v b) : a = b :=
  Nat.le_antisymm (Nat.le_of_not_lt (second.not_lt first)) (Nat.le_of_not_lt (first.not_lt second))

theorem Nearest.unique (first : Nearest v negative x) (second : Nearest v negative y) : x = y := by
  cases first with
  | finite rounded range =>
    cases second with
    | finite other => rw [rounded.unique other]
    | infinite other beyond =>
      rw [rounded.unique other] at range
      omega
  | infinite rounded beyond =>
    cases second with
    | finite other range =>
      rw [rounded.unique other] at beyond
      omega
    | infinite => rfl

theorem Nearest.ne_nan (nearest : Nearest v negative x) : x ≠ .nan := by
  cases nearest <;> exact Binary64.noConfusion

/-! ### Rounding yields it -/

/-- Rounded to whole steps, a quotient is as near as it gets, and a tie goes to an even number. -/
theorem roundDiv_nearest (num : Nat) {den step : Nat} (positive : 0 < den) (some : 0 < step)
    (k : Nat) :
    let m := roundDiv .toEven num (den * step)
    |(num : ℚ) / den - (m * step : Nat)| ≤ |(num : ℚ) / den - (k * step : Nat)| ∧
      (k ≠ m → |(num : ℚ) / den - (m * step : Nat)| = |(num : ℚ) / den - (k * step : Nat)| →
        Even m) := by
  intro m
  obtain ⟨least, most, strict⟩ := roundDiv_toEven_bounds num (Nat.mul_pos positive some)
  have scale : (0 : ℚ) < den := Nat.cast_pos.mpr positive
  have width : (0 : ℚ) < step := Nat.cast_pos.mpr some
  have exact_quotient : (num : ℚ) / den * den = num := div_mul_cancel₀ _ scale.ne'
  generalize (num : ℚ) / den = v at exact_quotient ⊢
  have below : v ≤ m * step + step / 2 := by
    have bound : (2 : ℚ) * num ≤ 2 * (m * (den * step)) + den * step := by exact_mod_cast least
    refine le_of_mul_le_mul_right ?_ scale
    linarith
  have above : m * step ≤ v + step / 2 := by
    have bound : (2 : ℚ) * (m * (den * step)) ≤ 2 * num + den * step := by exact_mod_cast most
    refine le_of_mul_le_mul_right ?_ scale
    linarith
  have inside (odd : m % 2 = 1) : v < m * step + step / 2 ∧ m * step < v + step / 2 := by
    obtain ⟨first, second⟩ := strict odd
    have bound : (2 : ℚ) * num < 2 * (m * (den * step)) + den * step := by exact_mod_cast first
    have other : (2 : ℚ) * (m * (den * step)) < 2 * num + den * step := by exact_mod_cast second
    constructor
    · refine lt_of_mul_lt_mul_right ?_ scale.le
      linarith
    · refine lt_of_mul_lt_mul_right ?_ scale.le
      linarith
  have near : |v - (m * step : Nat)| ≤ step / 2 := by
    rw [Nat.cast_mul, abs_le]
    constructor <;> linarith
  have apart (other : k ≠ m) : step / 2 ≤ |v - (k * step : Nat)| := by
    rw [Nat.cast_mul]
    rcases Nat.lt_or_gt_of_ne other with less | more
    · have gap : ((k + 1 : Nat) : ℚ) * step ≤ m * step :=
        mul_le_mul_of_nonneg_right (Nat.cast_le.mpr less) width.le
      rw [Nat.cast_succ] at gap
      refine le_trans ?_ (le_abs_self _)
      linarith
    · have gap : ((m + 1 : Nat) : ℚ) * step ≤ k * step :=
        mul_le_mul_of_nonneg_right (Nat.cast_le.mpr more) width.le
      rw [Nat.cast_succ] at gap
      refine le_trans ?_ (neg_le_abs _)
      linarith
  constructor
  · by_cases same : k = m
    · rw [same]
    · exact near.trans (apart same)
  · intro other tie
    rcases Nat.mod_two_eq_zero_or_one m with even | odd
    · exact Nat.even_iff.mpr even
    · obtain ⟨low, high⟩ := inside odd
      have strictly : |v - (m * step : Nat)| < step / 2 := by
        rw [Nat.cast_mul, abs_lt]
        constructor <;> linarith
      exact absurd tie (ne_of_lt (strictly.trans_le (apart other)))

/-- A significand that is carried to a further bit is written with half of it. -/
theorem significand_of_le {m : Nat} (bound : m ≤ 2 ^ precision) (exponent : Nat) :
    ∃ significand, (Even m → Even significand) ∧ Significand significand (m * 2 ^ exponent) := by
  rcases Nat.lt_or_eq_of_le bound with small | carried
  · exact ⟨m, id, small, exponent, rfl⟩
  · have half : 2 ^ precision = 2 ^ (precision - 1) * 2 := rfl
    refine ⟨2 ^ (precision - 1), fun _ => by decide, by decide, exponent + 1, ?_⟩
    rw [carried, half, Nat.mul_assoc, ← Nat.pow_succ']

/-- A magnitude that is no multiple of the spacing lies below the numbers with this spacing. -/
theorem lt_pow_of_not_dvd {significand other bits : Nat} (written : Significand significand other)
    (finer : ¬2 ^ (bits - precision) ∣ other) : precision < bits ∧ other < 2 ^ (bits - 1) := by
  obtain ⟨small, exponent, rfl⟩ := written
  have fewer : exponent < bits - precision := by
    by_contra enough
    exact finer (Nat.dvd_mul_left_of_dvd (Nat.pow_dvd_pow 2 (not_lt.mp enough)) significand)
  refine ⟨by omega, ?_⟩
  calc significand * 2 ^ exponent < 2 ^ precision * 2 ^ exponent :=
        Nat.mul_lt_mul_of_pos_right small (Nat.two_pow_pos exponent)
    _ = 2 ^ (precision + exponent) := (Nat.pow_add 2 precision exponent).symm
    _ ≤ 2 ^ (bits - 1) := Nat.pow_le_pow_right (by decide) (by omega)

theorem pow_bitCount_le {n : Nat} (some : precision < bitCount n) : 2 ^ (bitCount n - 1) ≤ n := by
  have nonzero : n ≠ 0 := by
    rintro rfl
    cases some
  rw [bitCount, if_neg nonzero, Nat.add_sub_cancel]
  exact Nat.log2_self_le nonzero

theorem roundUnits_rounded (num : Nat) {den : Nat} (positive : 0 < den) :
    Rounded (num / den) (roundUnits num den) := by
  have near := roundDiv_nearest num positive (spacing_pos (num / den))
  have bound := roundDiv_le_precision num den
  have written := significand_of_le bound (bitCount (num / den) - precision)
  have units : roundUnits num den = roundDiv .toEven num (den * spacing (num / den)) *
      2 ^ (bitCount (num / den) - precision) := rfl
  dsimp only at near
  have closer (other significand : Nat) (form : Significand significand other) :
      |(num : ℚ) / den - roundUnits num den| ≤ |(num : ℚ) / den - other| ∧
        (other ≠ roundUnits num den →
          |(num : ℚ) / den - roundUnits num den| = |(num : ℚ) / den - other| →
            Even (roundDiv .toEven num (den * spacing (num / den)))) := by
    by_cases multiple : spacing (num / den) ∣ other
    · obtain ⟨k, rfl⟩ := multiple
      rw [Nat.mul_comm]
      obtain ⟨nearest, even⟩ := near k
      refine ⟨nearest, fun different => even ?_⟩
      rintro rfl
      exact different rfl
    · -- A finer magnitude is farther away than the power of two between it and the quotient.
      obtain ⟨room, below⟩ := lt_pow_of_not_dvd form multiple
      have power : 2 ^ (precision - 1) * spacing (num / den) = 2 ^ (bitCount (num / den) - 1) := by
        rw [show spacing (num / den) = 2 ^ (bitCount (num / den) - precision) from rfl,
          ← Nat.pow_add]
        congr 1
        have some : 0 < precision := by decide
        omega
      have nearest := (near (2 ^ (precision - 1))).1
      rw [power] at nearest
      have reached : ((2 ^ (bitCount (num / den) - 1) : Nat) : ℚ) ≤ num / den :=
        (Nat.cast_le.mpr (pow_bitCount_le room)).trans Nat.cast_div_le
      have less : (other : ℚ) < (2 ^ (bitCount (num / den) - 1) : Nat) := Nat.cast_lt.mpr below
      have strictly : |(num : ℚ) / den - roundUnits num den| < |(num : ℚ) / den - other| := by
        refine lt_of_le_of_lt nearest ?_
        rw [abs_of_nonneg (by linarith), abs_of_nonneg (by linarith)]
        linarith
      exact ⟨strictly.le, fun _ tie => absurd tie strictly.ne⟩
  refine ⟨?_, fun other significand form => (closer other significand form).1, ?_⟩
  · obtain ⟨significand, -, form⟩ := written
    exact ⟨significand, form⟩
  · intro other significand form different tie
    obtain ⟨half, even, form'⟩ := written
    exact ⟨half, even ((closer other significand form).2 different tie), form'⟩

theorem ofQuotient_nearest (negative : Bool) (num : Nat) {den : Nat} (positive : 0 < den)
    (quotient : v * one = num / den) : Nearest v negative (ofQuotient negative num den) := by
  have rounded := roundUnits_rounded num positive
  rw [← quotient] at rounded
  unfold ofQuotient
  dsimp only
  split
  · rename_i range
    exact .finite rounded range
  · rename_i beyond
    exact .infinite rounded (Nat.le_of_not_lt beyond)

theorem ofDecimal_nearest (d : Decimal) : Nearest |d.value| d.negative (ofDecimal d) := by
  refine ofQuotient_nearest _ _ (Nat.pow_pos (by decide)) ?_
  have magnitude : |d.value| = d.mantissa / 10 ^ d.places := by
    have positive : (0 : ℚ) ≤ d.mantissa / 10 ^ d.places := by positivity
    rw [Decimal.value]
    cases d.negative <;> simp [abs_of_nonneg positive]
  rw [magnitude, div_mul_eq_mul_div, Nat.pow_eq, Nat.cast_mul, Nat.cast_pow, Nat.cast_ofNat]

/-- The quotient of a number by a whole number. That of an infinity is this infinity. -/
inductive Quotient (divisor : Nat) : Binary64 → Binary64 → Prop
  | finite {negative : Bool} {units : Nat} {y : Binary64}
      (nearest : Nearest (units / one / divisor) negative y) :
      Quotient divisor (.finite negative units) y
  | infinite (negative : Bool) : Quotient divisor (.infinite negative) (.infinite negative)

theorem Quotient.unique {divisor : Nat} {z : Binary64} (first : Quotient divisor x y)
    (second : Quotient divisor x z) : y = z := by
  cases first with
  | finite nearest =>
    cases second with
    | finite other => exact nearest.unique other
  | infinite negative =>
    cases second with
    | infinite => rfl

theorem divNat_quotient (number : x ≠ .nan) {divisor : Nat} (positive : 0 < divisor) :
    Quotient divisor x (x.divNat divisor) := by
  cases x with
  | finite negative units =>
    have quotient : (units / one / divisor : ℚ) * one = units / divisor := by
      rw [div_mul_eq_mul_div, div_mul_cancel₀ _ one_cast_pos.ne']
    have nearest := ofQuotient_nearest negative units positive quotient
    rw [show divNat (.finite negative units) divisor = ofQuotient negative units divisor from rfl]
    exact .finite nearest
  | infinite negative => exact .infinite negative
  | nan => exact absurd rfl number

end Binary64

end ScanSetup.Number
