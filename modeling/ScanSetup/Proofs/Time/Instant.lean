import ScanSetup.Proofs.Number.Rounding
import ScanSetup.Time.Instant

set_option autoImplicit false

namespace ScanSetup.Time

open Number

/-- The seconds from 1970 to the end of year 9999. -/
def calendarEnd : Nat := ((Date.mk 10000 1 1).toDays * 86400).toNat

theorem calendarEnd_eq : calendarEnd = 253402300800 := by decide +kernel

/-- A double-precision number of seconds that lies in the years 1970 to 9999. -/
def InCalendar (instant : Binary64) : Prop :=
  ∃ negative units, instant = .finite negative units ∧ Binary64.spacing units ∣ units ∧
    0 ≤ Binary64.signedUnits negative units ∧
    Binary64.signedUnits negative units < calendarEnd * (Binary64.one : Int)

/-- A clock whose time is rounded to a double-precision number of these years shows an instant of
the calendar. -/
theorem inCalendar_ofQuotient {num den : Nat}
    (before : Binary64.roundUnits num den < calendarEnd * Binary64.one) :
    InCalendar (.ofQuotient false num den) := by
  have finite : Binary64.roundUnits num den < Binary64.overflowUnits :=
    Nat.lt_trans before (by decide +kernel)
  refine ⟨false, Binary64.roundUnits num den, ?_, Binary64.spacing_dvd_roundUnits num den, ?_, ?_⟩
  · simp only [Binary64.ofQuotient, finite, ↓reduceIte]
  · exact Int.natCast_nonneg _
  · exact Int.ofNat_lt.mpr before

/-- The spacing of the numbers below a million, which bounds how far a fraction of a second in
microseconds is rounded. -/
def fractionSpacing : Nat := Nat.pow 2 1041

theorem one_eq : Binary64.one = 8589934592 * fractionSpacing := by decide +kernel

theorem fraction_le {part : Nat} (below : part < Binary64.one) :
    2 * Binary64.roundUnits (part * micros) 1 ≤ 2 * (part * micros) + fractionSpacing := by
  have small : part * micros < Nat.pow 2 1094 := by
    have scaled : part * micros < Binary64.one * micros :=
      Nat.mul_lt_mul_of_pos_right below (by decide)
    have fits : Binary64.one * micros < Nat.pow 2 1094 := by decide +kernel
    exact Nat.lt_trans scaled fits
  have bound := Binary64.roundUnits_le (part * micros)
  have spaced : Binary64.spacing (part * micros) ≤ fractionSpacing :=
    Nat.le_trans (Binary64.spacing_le small) (by decide +kernel)
  omega

/-- A fraction of a second reaches a second in microseconds at most. It stays below if it leaves
room for the distance of two numbers of the last second. -/
theorem fractionMicros_le {part : Nat} (below : part < Binary64.one) :
    let result := roundDiv .toEven (Binary64.roundUnits (part * micros) 1) Binary64.one
    result ≤ micros ∧ (part + 262144 * fractionSpacing ≤ Binary64.one → result < micros) := by
  intro result
  have first := fraction_le below
  have second : 2 * (result * Binary64.one) ≤
      2 * Binary64.roundUnits (part * micros) 1 + Binary64.one :=
    roundDiv_mul_le .toEven _ (by decide +kernel)
  have positive : 0 < fractionSpacing := by decide +kernel
  have scale := one_eq
  rw [micros] at *
  constructor
  · refine Nat.le_of_not_lt fun above => ?_
    have least : 1000001 * Binary64.one ≤ result * Binary64.one :=
      Nat.mul_le_mul_right _ (by omega)
    omega
  · intro room
    refine Nat.lt_of_not_le fun above => ?_
    have least : 1000000 * Binary64.one ≤ result * Binary64.one :=
      Nat.mul_le_mul_right _ (by omega)
    omega

/-- The numbers of the last second are further apart than half a microsecond. -/
theorem lastSecond_room {units : Nat} (real : Binary64.spacing units ∣ units)
    (last : units / Binary64.one = calendarEnd - 1) :
    units % Binary64.one + 262144 * fractionSpacing ≤ Binary64.one := by
  have positive : 0 < Binary64.one := by decide +kernel
  have parts := Nat.div_add_mod units Binary64.one
  have below := Nat.mod_lt units positive
  rw [last] at parts
  have spaced : Binary64.spacing units = 262144 * fractionSpacing := by
    -- The exponent is kept abstract, since only the kernel can compute its power.
    obtain ⟨bits, exponent⟩ : ∃ bits, bits = 1111 := ⟨_, rfl⟩
    have least : Nat.pow 2 bits ≤ Binary64.one * (calendarEnd - 1) := by
      rw [exponent]
      decide +kernel
    have most : Binary64.one * (calendarEnd - 1) + Binary64.one ≤ Nat.pow 2 (bits + 1) := by
      rw [exponent]
      decide +kernel
    have power : Nat.pow 2 (bits + 1 - Binary64.precision) = 262144 * fractionSpacing := by
      rw [exponent]
      decide +kernel
    rw [← power]
    exact Binary64.spacing_eq bits (by omega) (by omega)
  have grid : 262144 * fractionSpacing ∣ Binary64.one := by
    rw [one_eq]
    exact Nat.mul_dvd_mul_right (by decide) _
  have divides : 262144 * fractionSpacing ∣ Binary64.one - units % Binary64.one := by
    rw [spaced] at real
    exact Nat.dvd_sub grid ((Nat.dvd_mod_iff grid).mpr real)
  have gap := Nat.le_of_dvd (by omega) divides
  omega

/-- An instant before the end of year 9999 is before it in microseconds, too. -/
theorem magnitudeMicros_lt {units : Nat} (real : Binary64.spacing units ∣ units)
    (before : units < calendarEnd * Binary64.one) :
    magnitudeMicros units < calendarEnd * micros := by
  have positive : 0 < Binary64.one := by decide +kernel
  have whole : units / Binary64.one < calendarEnd := (Nat.div_lt_iff_lt_mul positive).mpr before
  obtain ⟨most, room⟩ := fractionMicros_le (Nat.mod_lt units positive)
  unfold magnitudeMicros
  dsimp only
  -- Only the last second could be rounded up into the year 10000.
  by_cases last : units / Binary64.one = calendarEnd - 1
  · have less := room (lastSecond_room real last)
    rw [last]
    rw [micros, calendarEnd_eq] at *
    omega
  · rw [micros, calendarEnd_eq] at *
    omega

theorem yearOfDays_bounds {days : Int} (after : 0 ≤ days) (before : days < 2932897) :
    1 ≤ yearOfDays days ∧ yearOfDays days ≤ 9999 := by
  have epoch : epochDays = 719162 := by decide +kernel
  unfold yearOfDays
  rw [epoch]
  dsimp only
  have first : 1969 ≤ (days + 719162) * 400 / 146097 + 1 := by omega
  have last : (days + 719162) * 400 / 146097 + 1 ≤ 9999 := by omega
  generalize (days + 719162) * 400 / 146097 + 1 = guess at first last
  split
  · rename_i reached
    unfold daysBeforeYear at reached
    dsimp only at reached
    omega
  · split <;> omega

theorem Civil.ofMicros_year {total : Int} (after : 0 ≤ total)
    (before : total < calendarEnd * (micros : Int)) :
    1 ≤ (Civil.ofMicros total).date.year ∧ (Civil.ofMicros total).date.year ≤ 9999 := by
  rw [calendarEnd_eq, micros] at before
  show 1 ≤ yearOfDays (total / micros / 86400) ∧ yearOfDays (total / micros / 86400) ≤ 9999
  refine yearOfDays_bounds ?_ ?_
  · rw [micros]
    omega
  · rw [micros]
    omega

theorem civil_eq_ok {negative : Bool} {units : Nat} (total : Int)
    (same : (if negative then -(magnitudeMicros units : Int) else magnitudeMicros units) = total)
    (after : 0 ≤ total) (before : total < calendarEnd * (micros : Int)) :
    civil (.finite negative units) = .ok (Civil.ofMicros total) := by
  obtain ⟨least, most⟩ := Civil.ofMicros_year after before
  have fits : secondsFit (total / micros) = true := by
    rw [calendarEnd_eq, micros] at *
    simp only [secondsFit, Bool.and_eq_true, decide_eq_true_eq]
    omega
  have year : yearFits (Civil.ofMicros total).date.year = true := by
    simp only [yearFits, Bool.and_eq_true, decide_eq_true_eq]
    omega
  have inside : ((Civil.ofMicros total).date.year < 1 ||
      9999 < (Civil.ofMicros total).date.year) = false := by
    simp only [Bool.or_eq_false_iff, decide_eq_false_iff_not]
    omega
  simp only [civil, same, fits, year, inside, Bool.not_true, Bool.false_eq_true, ↓reduceIte]

theorem instantText_eq_ok {instant : Binary64} (inside : InCalendar instant) :
    ∃ text, instantText instant = .ok text := by
  obtain ⟨negative, units, rfl, real, after, before⟩ := inside
  cases negative with
  | false =>
    have below : units < calendarEnd * Binary64.one := by
      simp only [Binary64.signedUnits, Bool.false_eq_true, ↓reduceIte] at before
      exact Int.ofNat_lt.mp before
    have bound := Int.ofNat_lt.mpr (magnitudeMicros_lt real below)
    refine ⟨_, congrArg _ (civil_eq_ok (magnitudeMicros units) rfl ?_ ?_)⟩
    · exact Int.natCast_nonneg _
    · exact bound
  | true =>
    have zero : units = 0 := by
      simp only [Binary64.signedUnits, ↓reduceIte] at after
      omega
    subst zero
    refine ⟨_, congrArg _ (civil_eq_ok 0 ?_ ?_ ?_)⟩
    · decide +kernel
    · decide
    · decide

end ScanSetup.Time
