import ScanSetup.Number.Binary64
import Mathlib.Data.Rat.Floor

set_option autoImplicit false

namespace ScanSetup.Number.Binary64

/-- The strict order. A NaN is not comparable. -/
def lt (x y : Binary64) : Bool := x.le y && !y.le x

theorem lt_finite (n m : Bool) (a b : Nat) :
    lt (.finite n a) (.finite m b) = true ↔ signedUnits n a < signedUnits m b := by
  simp only [lt, le, Bool.and_eq_true, decide_eq_true_eq, Bool.not_eq_true',
    decide_eq_false_iff_not]
  omega

/-- A number from zero to one is finite. -/
theorem isRatio_iff (x : Binary64) :
    x.isRatio = true ↔ ∃ negative units, x = .finite negative units ∧
      0 ≤ signedUnits negative units ∧ signedUnits negative units ≤ one := by
  cases x with
  | finite negative units =>
    have bounds : isRatio (.finite negative units) = true ↔
        0 ≤ signedUnits negative units ∧ signedUnits negative units ≤ one := by
      simp only [isRatio, Bool.and_eq_true]
      exact and_congr decide_eq_true_iff decide_eq_true_iff
    rw [bounds]
    constructor
    · intro inside
      exact ⟨negative, units, rfl, inside⟩
    · rintro ⟨_, _, same, inside⟩
      cases same
      exact inside
  | infinite negative =>
    have outside : isRatio (.infinite negative) = false := by cases negative <;> rfl
    rw [outside]
    constructor
    · intro inside
      cases inside
    · rintro ⟨_, _, same, -⟩
      cases same
  | nan =>
    constructor
    · intro inside
      cases inside
    · rintro ⟨_, _, same, -⟩
      cases same

/-- The number that is stored. Infinities and NaN have none. -/
def value? : Binary64 → Option ℚ
  | .finite negative units => some (signedUnits negative units / one)
  | _ => none

theorem one_cast_pos : (0 : ℚ) < one := by
  unfold one
  generalize 1074 = bits
  exact Nat.cast_pos.mpr (Nat.two_pow_pos bits)

/-- The test of a fraction looks at its value, so that minus zero passes and infinities do not. -/
theorem isRatio_iff_value (x : Binary64) :
    x.isRatio = true ↔ ∃ v, x.value? = some v ∧ 0 ≤ v ∧ v ≤ 1 := by
  rw [isRatio_iff]
  constructor
  · rintro ⟨negative, units, rfl, least, most⟩
    refine ⟨_, rfl, div_nonneg (Int.cast_nonneg least) one_cast_pos.le, ?_⟩
    rw [div_le_one one_cast_pos]
    exact_mod_cast most
  · rintro ⟨v, stored, least, most⟩
    cases x with
    | finite negative units =>
      cases stored
      rw [le_div_iff₀ one_cast_pos, zero_mul] at least
      rw [div_le_one one_cast_pos] at most
      exact ⟨negative, units, rfl, by exact_mod_cast least, by exact_mod_cast most⟩
    | infinite negative => cases stored
    | nan => cases stored

/-- Of two numbers from zero to one, the first lies below the second or the second does not lie
above the first. -/
theorem lt_of_isRatio {x y : Binary64} (first : x.isRatio = true) (second : y.isRatio = true)
    (not_above : y.le x = false) : lt x y = true := by
  obtain ⟨n, a, rfl, -⟩ := (isRatio_iff x).mp first
  obtain ⟨m, b, rfl, -⟩ := (isRatio_iff y).mp second
  rw [lt_finite]
  simp only [le, decide_eq_false_iff_not] at not_above
  omega

theorem isRatio_zero : zero.isRatio = true := by decide +kernel

theorem isRatio_unit : unit.isRatio = true := by decide +kernel

end ScanSetup.Number.Binary64
