import ScanSetup.Time.Calendar
import Mathlib.Logic.Function.Iterate
import Mathlib.Order.Monotone.Basic
import Mathlib.Tactic.IntervalCases

set_option autoImplicit false

namespace ScanSetup.Time

def Date.next (d : Date) : Date :=
  if d.day < daysInMonth d.year d.month then ⟨d.year, d.month, d.day + 1⟩
  else if d.month < 12 then ⟨d.year, d.month + 1, 1⟩
  else ⟨d.year + 1, 1, 1⟩

def Date.epoch : Date := ⟨1970, 1, 1⟩

/-- Counting days one by one leads from `start` to `stop`, or back from `stop` to `start` if their
number is negative. -/
def Date.Distance (start stop : Date) (days : Int) : Prop :=
  Date.next^[days.toNat] start = Date.next^[(-days).toNat] stop

variable {d : Date} {year : Int} {month day : Nat}

theorem isLeap_iff (year : Int) :
    isLeap year = true ↔ year % 4 = 0 ∧ (year % 100 ≠ 0 ∨ year % 400 = 0) := by
  simp [isLeap]

theorem Date.isValid_iff (d : Date) :
    d.isValid = true ↔ 1 ≤ d.day ∧ d.day ≤ daysInMonth d.year d.month := by
  simp [Date.isValid]

theorem daysInMonth_pos (year : Int) (month : Nat) (least : 1 ≤ month) (most : month ≤ 12) :
    0 < daysInMonth year month := by
  have february : 0 < if isLeap year then 29 else 28 := by split <;> decide
  interval_cases month <;> first | exact february | exact Nat.zero_lt_succ _

theorem month_bounds (days : 0 < daysInMonth year month) : 1 ≤ month ∧ month ≤ 12 := by
  unfold daysInMonth at days
  split at days <;> omega

theorem daysBeforeMonth_succ (year : Int) (month : Nat) :
    daysBeforeMonth year (month + 1) = daysBeforeMonth year month + daysInMonth year month := by
  have total (count : Nat) :
      daysBeforeMonth year count = ((List.range count).map (daysInMonth year)).sum := rfl
  rw [total, total, List.range_succ, List.map_append, List.sum_append, List.map_singleton,
    List.sum_singleton]

theorem daysBeforeMonth_mono (year : Int) : Monotone (daysBeforeMonth year) :=
  monotone_nat_of_le_succ fun month => by
    rw [daysBeforeMonth_succ]
    omega

/-- The months of a year fill it. -/
theorem daysBeforeMonth_year (year : Int) :
    (daysBeforeMonth year 13 : Int) = daysBeforeYear (year + 1) - daysBeforeYear year := by
  have months : (daysBeforeMonth year 13 : Int) = if isLeap year then 366 else 365 := by
    simp only [daysBeforeMonth_succ, daysInMonth]
    split <;> rfl
  have leap := isLeap_iff year
  rw [months]
  unfold daysBeforeYear
  dsimp only
  split
  · rename_i long
    have rule := leap.mp long
    omega
  · rename_i common
    have rule := mt leap.mpr common
    omega

theorem daysBeforeYear_mono {first second : Int} (before : first ≤ second) :
    daysBeforeYear first ≤ daysBeforeYear second := by
  unfold daysBeforeYear
  dsimp only
  omega

/-- The days of a year before a date that exists are days of this year. -/
theorem Date.dayOfYear_lt (valid : d.isValid = true) :
    daysBeforeMonth d.year d.month + d.day ≤ daysBeforeMonth d.year (d.month + 1) ∧
      daysBeforeMonth d.year (d.month + 1) ≤ daysBeforeMonth d.year 13 := by
  obtain ⟨least, most⟩ := d.isValid_iff.mp valid
  obtain ⟨-, december⟩ := month_bounds (Nat.lt_of_lt_of_le least most)
  refine ⟨?_, daysBeforeMonth_mono d.year (by omega)⟩
  rw [daysBeforeMonth_succ]
  omega

theorem Date.toDays_bounds (valid : d.isValid = true) :
    daysBeforeYear d.year ≤ d.toDays + epochDays ∧
      d.toDays + epochDays < daysBeforeYear (d.year + 1) := by
  obtain ⟨inMonth, inYear⟩ := Date.dayOfYear_lt valid
  have least := (d.isValid_iff.mp valid).1
  have months := daysBeforeMonth_year d.year
  unfold Date.toDays
  omega

theorem Date.toDays_injective {other : Date} (valid : d.isValid = true)
    (otherValid : other.isValid = true) (same : d.toDays = other.toDays) : d = other := by
  obtain ⟨year, month, day⟩ := d
  obtain ⟨otherYear, otherMonth, otherDay⟩ := other
  obtain ⟨first, last⟩ := Date.toDays_bounds valid
  obtain ⟨otherFirst, otherLast⟩ := Date.toDays_bounds otherValid
  have years : year = otherYear := by
    dsimp only at *
    refine Int.le_antisymm (Int.le_of_lt_add_one ?_) (Int.le_of_lt_add_one ?_) <;>
      refine lt_imp_lt_of_le_imp_le daysBeforeYear_mono ?_ <;> omega
  subst years
  obtain ⟨inMonth, -⟩ := Date.dayOfYear_lt valid
  obtain ⟨otherInMonth, -⟩ := Date.dayOfYear_lt otherValid
  have least := ((Date.mk year month day).isValid_iff.mp valid).1
  have otherLeast := ((Date.mk year otherMonth otherDay).isValid_iff.mp otherValid).1
  simp only [Date.toDays] at same inMonth otherInMonth least otherLeast
  have months : month = otherMonth := by
    refine Nat.le_antisymm (Nat.le_of_lt_add_one ?_) (Nat.le_of_lt_add_one ?_) <;>
      refine (daysBeforeMonth_mono year).reflect_lt ?_ <;> omega
  subst months
  have days : day = otherDay := by omega
  rw [days]

/-- The day after a date that exists, exists and has the next number. -/
theorem Date.next_spec (valid : d.isValid = true) :
    d.next.isValid = true ∧ d.next.toDays = d.toDays + 1 := by
  obtain ⟨least, most⟩ := d.isValid_iff.mp valid
  obtain ⟨january, december⟩ := month_bounds (Nat.lt_of_lt_of_le least most)
  have following := daysBeforeMonth_succ d.year d.month
  have months := daysBeforeMonth_year d.year
  unfold Date.next
  split
  · rw [Date.isValid_iff]
    simp only [Date.toDays]
    omega
  · split
    · have first := daysInMonth_pos d.year (d.month + 1) (by omega) (by omega)
      rw [Date.isValid_iff]
      simp only [Date.toDays]
      omega
    · have first := daysInMonth_pos (d.year + 1) 1 (by omega) (by omega)
      have start : daysBeforeMonth (d.year + 1) 1 = 0 := rfl
      rw [show d.month + 1 = 13 by omega] at following
      rw [Date.isValid_iff]
      simp only [Date.toDays, start]
      omega

theorem Date.iterate_next_spec (valid : d.isValid = true) (count : Nat) :
    (Date.next^[count] d).isValid = true ∧ (Date.next^[count] d).toDays = d.toDays + count := by
  induction count with
  | zero => exact ⟨valid, (Int.add_zero _).symm⟩
  | succ count ih =>
    obtain ⟨there, number⟩ := Date.next_spec ih.1
    rw [Function.iterate_succ_apply']
    refine ⟨there, ?_⟩
    rw [number, ih.2]
    omega

theorem Date.epoch_valid : Date.epoch.isValid = true := by decide

theorem Date.toDays_epoch : Date.epoch.toDays = 0 := by decide +kernel

/-- The number of a date is its distance from 1970-01-01, counted day by day. -/
theorem Date.distance_epoch_iff (valid : d.isValid = true) (days : Int) :
    Date.epoch.Distance d days ↔ days = d.toDays := by
  obtain ⟨forwards, reached⟩ := Date.iterate_next_spec Date.epoch_valid days.toNat
  obtain ⟨backwards, left⟩ := Date.iterate_next_spec valid (-days).toNat
  rw [Date.toDays_epoch] at reached
  constructor
  · intro counted
    rw [Date.Distance] at counted
    rw [counted] at reached
    omega
  · rintro rfl
    refine Date.toDays_injective forwards backwards ?_
    omega

/-- The year of a number of days starts before it, and ends behind it. -/
theorem yearOfDays_spec (days : Int) :
    daysBeforeYear (yearOfDays days) ≤ days + epochDays ∧
      days + epochDays < daysBeforeYear (yearOfDays days + 1) := by
  unfold yearOfDays
  generalize days + epochDays = total
  dsimp only
  have near : daysBeforeYear (total * 400 / 146097) ≤ total ∧
      total < daysBeforeYear (total * 400 / 146097 + 3) := by
    unfold daysBeforeYear
    dsimp only
    omega
  generalize total * 400 / 146097 = past at near ⊢
  split
  · rename_i late
    rw [show past + 1 + 1 + 1 = past + 3 by omega]
    exact ⟨late, near.2⟩
  · split
    · rename_i early
      rw [show past + 1 - 1 = past by omega]
      exact ⟨near.1, early⟩
    · omega

/-- The month that holds a day of the year starts before it, and the day behind it exists. -/
theorem monthOf_spec (year : Int) (more month rest : Nat)
    (inside : daysBeforeMonth year month + rest < daysBeforeMonth year (month + more + 1)) :
    let found := monthOf year more month rest
    daysBeforeMonth year found.1 + found.2 = daysBeforeMonth year month + rest ∧
      found.2 < daysInMonth year found.1 := by
  induction more generalizing month rest with
  | zero =>
    rw [Nat.add_zero, daysBeforeMonth_succ] at inside
    exact ⟨rfl, by simpa [monthOf] using inside⟩
  | succ more ih =>
    have following := daysBeforeMonth_succ year month
    unfold monthOf
    split
    · rename_i here
      exact ⟨rfl, here⟩
    · have later := ih (month + 1) (rest - daysInMonth year month) (by
        rw [show month + 1 + more + 1 = month + (more + 1) + 1 by omega]
        omega)
      refine ⟨?_, later.2⟩
      rw [later.1]
      omega

theorem Date.ofDays_spec (days : Int) :
    (Date.ofDays days).isValid = true ∧ (Date.ofDays days).toDays = days := by
  obtain ⟨first, last⟩ := yearOfDays_spec days
  have months := daysBeforeMonth_year (yearOfDays days)
  have start : daysBeforeMonth (yearOfDays days) 1 = 0 := rfl
  obtain ⟨total, day⟩ := monthOf_spec (yearOfDays days) 11 1
    (days + epochDays - daysBeforeYear (yearOfDays days)).toNat (by
      rw [start, show 1 + 11 + 1 = 13 from rfl]
      omega)
  unfold Date.ofDays
  rw [Date.isValid_iff]
  dsimp only [Date.toDays]
  rw [start] at total
  omega

end ScanSetup.Time
