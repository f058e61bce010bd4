import ScanSetup.Number.Binary64
import Mathlib.Tactic.SplitIfs

set_option autoImplicit false

namespace ScanSetup.Number

theorem roundDiv_mul_le (tie : Tie) (num : Nat) {den : Nat} (positive : 0 < den) :
    2 * (roundDiv tie num den * den) ≤ 2 * num + den := by
  have whole := Nat.div_add_mod num den
  have rest := Nat.mod_lt num positive
  rw [Nat.mul_comm] at whole
  have next : (num / den + 1) * den = num / den * den + den := Nat.succ_mul _ _
  have even : (num / den + num / den % 2) * den ≤ (num / den + 1) * den :=
    Nat.mul_le_mul_right den (by omega)
  unfold roundDiv
  dsimp only
  split
  · omega
  · split
    · omega
    · cases tie with
      | up =>
        dsimp only
        omega
      | toEven =>
        dsimp only
        omega

/-- Rounding half up leaves less than half. -/
theorem lt_roundDiv_up_mul (num : Nat) {den : Nat} (positive : 0 < den) :
    2 * num < 2 * (roundDiv .up num den * den) + den := by
  have whole := Nat.div_add_mod num den
  have rest := Nat.mod_lt num positive
  rw [Nat.mul_comm] at whole
  have next : (num / den + 1) * den = num / den * den + den := Nat.succ_mul _ _
  unfold roundDiv
  dsimp only
  split
  · omega
  · split <;> omega

theorem roundDiv_le (tie : Tie) (num den : Nat) : roundDiv tie num den ≤ num / den + 1 := by
  unfold roundDiv
  dsimp only
  split
  · omega
  · split
    · omega
    · cases tie <;> dsimp only <;> omega

theorem div_le_roundDiv (tie : Tie) (num den : Nat) : num / den ≤ roundDiv tie num den := by
  unfold roundDiv
  dsimp only
  split
  · omega
  · split
    · omega
    · cases tie <;> dsimp only <;> omega

theorem roundDiv_mono (tie : Tie) {a b : Nat} (den : Nat) (le : a ≤ b) :
    roundDiv tie a den ≤ roundDiv tie b den := by
  have quotients : a / den ≤ b / den := Nat.div_le_div_right le
  by_cases same : a / den = b / den
  · have whole := Nat.div_add_mod a den
    have other := Nat.div_add_mod b den
    rw [← same] at other
    have rests : a % den ≤ b % den := by omega
    unfold roundDiv
    rw [← same]
    dsimp only
    cases tie <;> dsimp only <;> split_ifs <;> omega
  · have least := roundDiv_le tie a den
    have most := div_le_roundDiv tie b den
    omega

theorem roundDiv_of_dvd (tie : Tie) {num den : Nat} (positive : 0 < den) (dvd : den ∣ num) :
    roundDiv tie num den = num / den := by
  simp only [roundDiv, Nat.mod_eq_zero_of_dvd dvd, Nat.mul_zero, positive, ↓reduceIte]

theorem roundDiv_mul_right (tie : Tie) (num den : Nat) {factor : Nat} (positive : 0 < factor) :
    roundDiv tie (num * factor) (den * factor) = roundDiv tie num den := by
  have below (a b : Nat) : a * factor < b * factor ↔ a < b := Nat.mul_lt_mul_right positive
  simp only [roundDiv, Nat.mul_div_mul_right _ _ positive, Nat.mul_mod_mul_right, ← Nat.mul_assoc,
    below]

/-- A multiple of the denominator bounds what is rounded from below it. -/
theorem roundDiv_mul_le_of_dvd (tie : Tie) {num den bound : Nat} (positive : 0 < den)
    (dvd : den ∣ bound) (le : num ≤ bound) : roundDiv tie num den * den ≤ bound := by
  calc roundDiv tie num den * den ≤ roundDiv tie bound den * den :=
        Nat.mul_le_mul_right den (roundDiv_mono tie den le)
    _ = bound := by rw [roundDiv_of_dvd tie positive dvd, Nat.div_mul_cancel dvd]

theorem le_roundDiv_mul_of_dvd (tie : Tie) {num den bound : Nat} (positive : 0 < den)
    (dvd : den ∣ bound) (le : bound ≤ num) : bound ≤ roundDiv tie num den * den := by
  calc bound = roundDiv tie bound den * den := by
        rw [roundDiv_of_dvd tie positive dvd, Nat.div_mul_cancel dvd]
    _ ≤ roundDiv tie num den * den := Nat.mul_le_mul_right den (roundDiv_mono tie den le)

/-- An even number is reached from half below it on, since a tie goes to it. -/
theorem le_roundDiv_toEven_iff {num den k : Nat} (positive : 0 < den) (even : k % 2 = 0) :
    k ≤ roundDiv .toEven num den ↔ 2 * (k * den) ≤ 2 * num + den := by
  have whole := Nat.div_add_mod num den
  have rest := Nat.mod_lt num positive
  rw [Nat.mul_comm] at whole
  have next : (num / den + 1) * den = num / den * den + den := Nat.succ_mul _ _
  have second : (num / den + 2) * den = num / den * den + den + den := by
    rw [Nat.succ_mul, next]
  unfold roundDiv
  dsimp only
  rcases Nat.lt_trichotomy k (num / den + 1) with below | here | above
  · have least := Nat.mul_le_mul_right den (Nat.le_of_lt_succ below)
    split_ifs <;> omega
  · rw [← here] at next
    split_ifs <;> omega
  · have least : (num / den + 2) * den ≤ k * den := Nat.mul_le_mul_right den above
    split_ifs <;> omega

namespace Binary64

theorem spacing_pos (units : Nat) : 0 < spacing units := Nat.pow_pos (by decide)

theorem bitCount_le {units bits : Nat} (small : units < Nat.pow 2 bits) :
    bitCount units ≤ bits := by
  unfold bitCount
  split
  · omega
  · rename_i positive
    have bound : units.log2 < bits := (Nat.log2_lt positive).mpr small
    omega

theorem spacing_le {units bits : Nat} (small : units < Nat.pow 2 bits) :
    spacing units ≤ Nat.pow 2 (bits - precision) :=
  Nat.pow_le_pow_right (by decide) (Nat.sub_le_sub_right (bitCount_le small) _)

/-- The numbers with the same number of bits are equally far from their neighbours. -/
theorem spacing_eq {units : Nat} (bits : Nat) (least : Nat.pow 2 bits ≤ units)
    (most : units < Nat.pow 2 (bits + 1)) : spacing units = Nat.pow 2 (bits + 1 - precision) := by
  have positive : units ≠ 0 := by
    have power : 0 < Nat.pow 2 bits := Nat.pow_pos (by decide)
    omega
  have log : units.log2 = bits := (Nat.log2_eq_iff positive).mpr ⟨least, most⟩
  rw [spacing, bitCount, if_neg positive, log]

/-- A whole number of units is rounded up by half of the spacing at most. -/
theorem roundUnits_le (units : Nat) : 2 * roundUnits units 1 ≤ 2 * units + spacing units := by
  have bound := roundDiv_mul_le .toEven units (spacing_pos units)
  simpa only [roundUnits, Nat.div_one, Nat.one_mul] using bound

theorem lt_pow_bitCount (n : Nat) : n < Nat.pow 2 (bitCount n) := by
  unfold bitCount
  split
  · rename_i zero
    rw [zero]
    exact Nat.pow_pos (by decide)
  · exact Nat.lt_log2_self

/-- Rounding may carry the significand to a further bit, but no farther. -/
theorem roundDiv_le_precision (num den : Nat) :
    roundDiv .toEven num (den * spacing (num / den)) ≤ Nat.pow 2 precision := by
  refine Nat.le_trans (roundDiv_le .toEven num (den * spacing (num / den))) ?_
  have split : Nat.pow 2 precision * spacing (num / den) =
      Nat.pow 2 (precision + (bitCount (num / den) - precision)) :=
    (Nat.pow_add 2 precision _).symm
  rw [← Nat.div_div_eq_div_mul, Nat.succ_le_iff, Nat.div_lt_iff_lt_mul (spacing_pos _), split]
  exact Nat.lt_of_lt_of_le (lt_pow_bitCount _) (Nat.pow_le_pow_right (by decide) (by omega))

/-- What rounding yields is a multiple of the spacing at its own magnitude, also where it has been
carried to the next power of two. -/
theorem spacing_dvd_roundUnits (num den : Nat) :
    spacing (roundUnits num den) ∣ roundUnits num den := by
  have most := roundDiv_le_precision num den
  unfold roundUnits
  dsimp only
  rw [show spacing (num / den) = Nat.pow 2 (bitCount (num / den) - precision) from rfl] at most ⊢
  generalize bitCount (num / den) - precision = shift at most ⊢
  have split : Nat.pow 2 (precision + shift) = Nat.pow 2 precision * Nat.pow 2 shift :=
    Nat.pow_add 2 precision shift
  generalize roundDiv .toEven num (den * Nat.pow 2 shift) = significand at most ⊢
  -- Rounding up may carry the significand to a further bit, where the spacing doubles.
  by_cases carried : significand = Nat.pow 2 precision
  · have least : Nat.pow 2 (precision + shift) ≤ significand * Nat.pow 2 shift :=
      Nat.le_of_eq (by rw [carried, split])
    have below : significand * Nat.pow 2 shift < Nat.pow 2 (precision + shift + 1) := by
      rw [carried, ← split]
      exact Nat.pow_lt_pow_right (by decide) (Nat.lt_succ_self _)
    rw [spacing_eq (precision + shift) least below, carried, ← split]
    exact Nat.pow_dvd_pow 2 (by simp only [precision]; omega)
  · have below : significand * Nat.pow 2 shift < Nat.pow 2 (precision + shift) := by
      rw [split]
      exact Nat.mul_lt_mul_of_pos_right (by omega) (Nat.pow_pos (by decide))
    have bits := bitCount_le below
    exact Nat.dvd_mul_left_of_dvd (Nat.pow_dvd_pow 2 (by omega)) significand

theorem roundUnits_of_dvd {units : Nat} (real : spacing units ∣ units) :
    roundUnits units 1 = units := by
  simp only [roundUnits, Nat.div_one, Nat.one_mul]
  rw [roundDiv_of_dvd .toEven (spacing_pos units) real, Nat.div_mul_cancel real]

/-- Whole numbers of at most `precision` bits are double-precision numbers. -/
theorem ofDecimal_natural {n : Nat} (small : n < Nat.pow 2 precision) :
    ofDecimal ⟨false, n, 0⟩ = .finite false (n * one) := by
  have real : spacing (n * one) ∣ n * one := by
    -- The exponent is kept abstract, since its power is too large to compute.
    obtain ⟨bits, exponent⟩ : ∃ bits, bits = 1074 := ⟨_, rfl⟩
    have unit : one = Nat.pow 2 bits := by
      rw [exponent]
      decide +kernel
    have below : n * one < Nat.pow 2 (precision + bits) := by
      rw [unit, Nat.pow_eq, Nat.pow_eq, Nat.pow_add]
      exact Nat.mul_lt_mul_of_pos_right small (Nat.pow_pos (by decide))
    have fewer := bitCount_le below
    refine Nat.dvd_mul_left_of_dvd ?_ n
    rw [unit] at fewer ⊢
    exact Nat.pow_dvd_pow 2 (by omega)
  have finite : n * one < overflowUnits := by
    have most : Nat.pow 2 precision * one ≤ overflowUnits := by decide +kernel
    exact Nat.lt_of_lt_of_le (Nat.mul_lt_mul_of_pos_right small (by decide +kernel)) most
  have places : Nat.pow 10 0 = 1 := rfl
  simp only [ofDecimal, ofQuotient, places, roundUnits_of_dvd real, finite, ↓reduceIte]

end Binary64

end ScanSetup.Number
