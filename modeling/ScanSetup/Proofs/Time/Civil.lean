import ScanSetup.Proofs.Time.Calendar
import ScanSetup.Proofs.Time.CivilText
import ScanSetup.Proofs.Time.Instant
import ScanSetup.Proofs.Time.Stamp

set_option autoImplicit false

namespace ScanSetup.Time

open Text Number

/-! ### Reading -/

def CivilFields.date (f : CivilFields) : Date := ⟨f.year, f.month, f.day⟩

/-- The day is one of its month, the time of day exists, and the offset is less than a day. -/
structure CivilFields.Exists (f : CivilFields) : Prop where
  year : 1 ≤ f.year ∧ f.year ≤ 9999
  day : 1 ≤ f.day ∧ f.day ≤ daysInMonth f.year f.month
  hour : f.hour < 24
  minute : f.minute < 60
  second : f.second < 60
  zone : -(24 * 60) < f.zone ∧ f.zone < 24 * 60

/-- The instant of a date and time of day: the seconds of the days from 1970-01-01 on and those of
the time of day, less the offset. -/
def CivilFields.Denotes (f : CivilFields) (instant : Int) : Prop :=
  ∃ days : Int, Date.epoch.Distance f.date days ∧
    instant = days * 86400 + (f.hour * 3600 + f.minute * 60 + f.second) - f.zone * 60

variable {f : CivilFields}

theorem CivilFields.isValid_iff (year : f.year ≤ 9999) : f.isValid = true ↔ f.Exists := by
  simp only [CivilFields.isValid, Bool.and_eq_true, decide_eq_true_eq, Date.isValid_iff]
  constructor
  · rintro ⟨⟨⟨⟨⟨least, day⟩, hour⟩, minute⟩, second⟩, zone⟩
    exact ⟨⟨least, year⟩, day, hour, minute, second, by omega⟩
  · rintro ⟨⟨least, -⟩, day, hour, minute, second, zone⟩
    exact ⟨⟨⟨⟨⟨least, day⟩, hour⟩, minute⟩, second⟩, by omega⟩

theorem CivilFields.denotes_iff (there : f.Exists) (instant : Int) :
    f.Denotes instant ↔ f.toSeconds = instant := by
  have valid : f.date.isValid = true := (Date.isValid_iff _).mpr there.day
  have seconds : f.toSeconds =
      f.date.toDays * 86400 + (f.hour * 3600 + f.minute * 60 + f.second) - f.zone * 60 := by
    simp only [CivilFields.toSeconds, CivilFields.date]
    omega
  constructor
  · rintro ⟨days, counted, rfl⟩
    rw [seconds, (Date.distance_epoch_iff valid days).mp counted]
  · rintro rfl
    exact ⟨f.date.toDays, (Date.distance_epoch_iff valid _).mpr rfl, seconds⟩

theorem parseCivil_eq_toSeconds {spec : String} (text : CivilText spec.toList f)
    (there : f.Exists) : parseCivil spec = f.toSeconds := by
  have valid := (CivilFields.isValid_iff there.year.2).mpr there
  simp only [parseCivil, civilFields?_eq_some_iff.mpr text, valid, ↓reduceIte]

/-- A text that is no date and time of day, or one that does not exist, counts as zero. -/
theorem parseCivil_eq_zero {spec : String}
    (none_exists : ¬∃ f, CivilText spec.toList f ∧ f.Exists) : parseCivil spec = 0 := by
  unfold parseCivil
  split
  · rfl
  · rename_i f read
    have invalid : ¬f.isValid = true := by
      intro valid
      have year := Nat.le_of_lt_succ (civilFields?_year read)
      exact none_exists
        ⟨f, civilFields?_eq_some_iff.mp read, (CivilFields.isValid_iff year).mp valid⟩
    rw [if_neg invalid]

/-! ### Writing -/

theorem padded_digits (width n : Nat) (positive : 0 < width) (small : n < 10 ^ width) :
    FixedDigits width (padded width n).toList ∧ digitsValue (padded width n).toList = n := by
  have length : (Nat.toDigits 10 n).length ≤ width :=
    (Nat.length_toDigits_le_iff (by decide) positive).mpr small
  have written : (padded width n).toList =
      List.replicate (width - (Nat.toDigits 10 n).length) '0' ++ Nat.toDigits 10 n := by
    rw [padded, Binary64.padZeros, String.toList_append, String.toList_ofList,
      Nat.toString_eq_repr, ← String.length_toList, Nat.toList_repr]
  rw [written]
  refine ⟨⟨?_, ?_⟩, ?_⟩
  · rw [List.length_append, List.length_replicate]
    omega
  · intro c member
    rcases List.mem_append.mp member with filled | digit
    · rw [List.eq_of_mem_replicate filled]
      decide +kernel
    · exact isDigit_of_mem_toDigits digit
  · rw [digitsValue_zeros, digitsValue_toDigits]

/-- A year of four digits is written without leading zeros. -/
theorem year_eq_padded {year : Nat} (least : 1000 ≤ year) :
    toString (year : Int) = padded 4 year := by
  have length : 3 < (toString year).length := by
    rw [Nat.toString_eq_repr, ← String.length_toList, Nat.toList_repr]
    have few := Nat.length_toDigits_le_iff (b := 10) (n := year) (k := 3) (by decide) (by decide)
    omega
  have filled : 4 - (toString year).length = 0 := by omega
  rw [padded, Binary64.padZeros, filled]
  exact (String.empty_append).symm

/-- The parts of a time are small enough for the digits that they are written with. -/
structure Civil.InRange (t : Civil) : Prop where
  year : 1000 ≤ t.date.year ∧ t.date.year ≤ 9999
  day : 1 ≤ t.date.day ∧ t.date.day ≤ daysInMonth t.date.year t.date.month
  hour : t.hour < 24
  minute : t.minute < 60
  second : t.second < 60
  micro : t.micro < micros

def Civil.fields (t : Civil) : CivilFields :=
  ⟨t.date.year.toNat, t.date.month, t.date.day, t.hour, t.minute, t.second, 0⟩

variable {t : Civil}

theorem Civil.fields_toSeconds (after : 0 ≤ t.date.year) :
    t.fields.toSeconds =
      t.date.toDays * 86400 + t.hour * 3600 + t.minute * 60 + t.second := by
  obtain ⟨⟨year, month, day⟩, hour, minute, second, micro⟩ := t
  have same : (year.toNat : Int) = year := Int.toNat_of_nonneg after
  simp only [CivilFields.toSeconds, Civil.fields, same]
  omega

theorem Civil.fields_exist (range : t.InRange) : t.fields.Exists := by
  obtain ⟨⟨least, most⟩, day, hour, minute, second, -⟩ := range
  have year : (t.date.year.toNat : Int) = t.date.year := by omega
  refine ⟨?_, ?_, hour, minute, second, ?_⟩
  · simp only [Civil.fields]
    omega
  · simpa only [Civil.fields, year] using day
  · simp [Civil.fields]

/-- What is written for a time is a date and time of day, and this time. -/
theorem Civil.text_spec (range : t.InRange) : CivilText t.text.toList t.fields := by
  obtain ⟨⟨least, most⟩, day, hour, minute, second, micro⟩ := range
  rw [micros] at micro
  obtain ⟨year, number⟩ : ∃ year : Nat, t.date.year = year := ⟨t.date.year.toNat, by omega⟩
  obtain ⟨-, month_most⟩ := month_bounds (Nat.lt_of_lt_of_le day.1 day.2)
  have day_most := Nat.le_trans day.2 (daysInMonth_le _ _)
  obtain ⟨year_digits, year_value⟩ :=
    padded_digits 4 year (by decide) (by omega)
  obtain ⟨month_digits, month_value⟩ :=
    padded_digits 2 t.date.month (by decide) (by omega)
  obtain ⟨day_digits, day_value⟩ :=
    padded_digits 2 t.date.day (by decide) (by omega)
  obtain ⟨hour_digits, hour_value⟩ :=
    padded_digits 2 t.hour (by decide) (by omega)
  obtain ⟨minute_digits, minute_value⟩ :=
    padded_digits 2 t.minute (by decide) (by omega)
  obtain ⟨second_digits, second_value⟩ :=
    padded_digits 2 t.second (by decide) (by omega)
  obtain ⟨milli_digits, -⟩ :=
    padded_digits 3 (t.micro / 1000) (by decide) (by omega)
  have fraction : FractionText ('.' :: (padded 3 (t.micro / 1000)).toList) := by
    refine .written (.inl rfl) ?_ milli_digits.2
    exact List.ne_nil_of_length_pos (by rw [milli_digits.1]; decide)
  have none : ∀ c ∈ ([] : List Char), isBlank c = true := by simp
  have whole := CivilText.written none year_digits month_digits day_digits hour_digits
    minute_digits second_digits fraction .utc none
  rw [year_value, month_value, day_value, hour_value, minute_value, second_value] at whole
  have fields : t.fields =
      ⟨year, t.date.month, t.date.day, t.hour, t.minute, t.second, 0⟩ := by
    rw [Civil.fields, number, Int.toNat_natCast]
  have text : toString t.date.year = padded 4 year := by
    rw [number]
    exact year_eq_padded (by omega)
  rw [fields, Civil.text, text]
  simpa [String.toList_append] using whole

theorem isPlain_text (t : Civil) : isPlain t.text = false := by
  simp [isPlain, Civil.text, String.toList_append]

/-- A day of the years 1970 to 9999 has a date in these years, which is this day. -/
theorem Date.ofDays_year (days : Int) (after : 0 ≤ days) (before : days < 2932897) :
    1970 ≤ (Date.ofDays days).year ∧ (Date.ofDays days).year ≤ 9999 := by
  obtain ⟨-, most⟩ := yearOfDays_bounds after before
  obtain ⟨-, last⟩ := yearOfDays_spec days
  refine ⟨?_, most⟩
  by_contra early
  have past := daysBeforeYear_mono (Int.add_one_le_of_lt (Int.not_le.mp early))
  have epoch : daysBeforeYear 1970 = epochDays := rfl
  rw [epoch] at past
  exact absurd (Int.lt_of_lt_of_le last past) (by omega)

theorem Civil.ofMicros_spec {seconds : Nat} (before : seconds < calendarEnd) :
    (Civil.ofMicros (seconds * micros : Nat)).InRange ∧
      (Civil.ofMicros (seconds * micros : Nat)).fields.toSeconds = seconds := by
  have parts : Civil.ofMicros (seconds * micros : Nat) =
      ⟨Date.ofDays (seconds / 86400 : Nat), seconds % 86400 / 3600, seconds % 86400 / 60 % 60,
        seconds % 86400 % 60, 0⟩ := by
    have whole : ((seconds * micros : Nat) : Int) / micros = seconds := by
      rw [micros]
      omega
    have part : ((seconds * micros : Nat) : Int) % micros = 0 := by
      rw [micros]
      omega
    have day : (seconds : Int) / 86400 = (seconds / 86400 : Nat) := by omega
    have ofDay : ((seconds : Int) % 86400).toNat = seconds % 86400 := by omega
    simp only [Civil.ofMicros, whole, part, day, ofDay, Int.toNat_zero]
  rw [calendarEnd_eq] at before
  obtain ⟨valid, number⟩ := Date.ofDays_spec (seconds / 86400 : Nat)
  obtain ⟨least, most⟩ := Date.ofDays_year (seconds / 86400 : Nat) (by omega) (by omega)
  rw [parts]
  generalize Date.ofDays (seconds / 86400 : Nat) = date at valid number least most
  refine ⟨⟨⟨?_, most⟩, date.isValid_iff.mp valid, ?_, ?_, ?_, Nat.zero_lt_succ _⟩, ?_⟩
  · exact Int.le_trans (by decide) least
  · show seconds % 86400 / 3600 < 24
    omega
  · show seconds % 86400 / 60 % 60 < 60
    omega
  · show seconds % 86400 % 60 < 60
    omega
  · rw [Civil.fields_toSeconds (Int.le_trans (by decide) least), number]
    dsimp only
    omega

theorem magnitudeMicros_natural (seconds : Nat) :
    magnitudeMicros (seconds * Binary64.one) = seconds * micros := by
  have positive : 0 < Binary64.one := by decide +kernel
  have none : roundDiv .toEven (Binary64.roundUnits (0 * micros) 1) Binary64.one = 0 := by
    decide +kernel
  simp only [magnitudeMicros, Nat.mul_mod_left, none, Nat.mul_div_cancel _ positive, Nat.add_zero]

theorem instantText_natural (seconds : Nat) (before : seconds < calendarEnd) :
    ∃ text f, instantText (.ofDecimal ⟨false, seconds, 0⟩) = .ok text ∧ isPlain text = false ∧
      CivilText text.toList f ∧ f.Exists ∧ f.toSeconds = seconds := by
  have small : seconds < Nat.pow 2 Binary64.precision := by
    have fits : calendarEnd ≤ Nat.pow 2 Binary64.precision := by decide +kernel
    exact Nat.lt_of_lt_of_le before fits
  have total : (seconds * micros : Nat) < calendarEnd * (micros : Int) :=
    Int.ofNat_lt.mpr (Nat.mul_lt_mul_of_pos_right before (by decide))
  have magnitude : (if false then -(magnitudeMicros (seconds * Binary64.one) : Int)
      else magnitudeMicros (seconds * Binary64.one)) = (seconds * micros : Nat) := by
    rw [if_neg Bool.false_ne_true, magnitudeMicros_natural]
  have time := civil_eq_ok (seconds * micros : Nat) magnitude (Int.natCast_nonneg _) total
  obtain ⟨range, same⟩ := Civil.ofMicros_spec before
  refine ⟨(Civil.ofMicros (seconds * micros : Nat)).text, _, ?_, isPlain_text _,
    Civil.text_spec range, Civil.fields_exist range, same⟩
  rw [Binary64.ofDecimal_natural small, instantText, time]
  rfl

/-- A text is read by the calendar if it is a date and time of day that exists, and as zero
otherwise. What is written for the seconds from 1970 to the end of year 9999 is read back, and is
not taken for plain seconds. -/
theorem parseCivil_calendar :
    (∀ spec f, CivilText (String.toList spec) f → f.Exists →
      ∀ instant, f.Denotes instant ↔ parseCivil spec = instant) ∧
    (∀ spec, (¬∃ f, CivilText (String.toList spec) f ∧ f.Exists) → parseCivil spec = 0) ∧
    (∀ seconds : Nat, 1 ≤ seconds → seconds ≤ 253402300799 →
      ∃ text, instantText (.ofDecimal ⟨false, seconds, 0⟩) = .ok text ∧
        ∀ now, parseStamp now text = .ok ⟨seconds, false, now.ltInt seconds⟩) := by
  refine ⟨?_, fun spec => parseCivil_eq_zero, ?_⟩
  · intro spec f text there instant
    rw [CivilFields.denotes_iff there, parseCivil_eq_toSeconds text there]
  · intro seconds positive most
    have before : seconds < calendarEnd := by
      rw [calendarEnd_eq]
      omega
    obtain ⟨text, f, written, civil, form, there, same⟩ := instantText_natural seconds before
    refine ⟨text, written, fun now => ?_⟩
    have after : ¬(seconds : Int) ≤ 0 := by omega
    simp only [parseStamp, civil, Bool.false_eq_true, ↓reduceIte, parseCivil_eq_toSeconds form there,
      same, after]

/-- A leap day with an offset, the same day of a common year, and an instant that is written. -/
theorem parseCivil_calendar_leapDay :
    parseCivil "2000-02-29T01:30:00.5+05:30" = 951768000 ∧
      parseCivil "2001-02-29T01:30:00" = 0 ∧
      ∃ text, instantText (.ofDecimal ⟨false, 951768000, 0⟩) = .ok text ∧
        ∀ now, parseStamp now text = .ok ⟨951768000, false, now.ltInt 951768000⟩ := by
  refine ⟨?_, ?_, parseCivil_calendar.2.2 951768000 (by decide) (by decide)⟩
  · have text : CivilText "2000-02-29T01:30:00.5+05:30".toList ⟨2000, 2, 29, 1, 30, 0, 330⟩ :=
      civilFields?_eq_some_iff.mp (by decide +kernel)
    have there : CivilFields.Exists ⟨2000, 2, 29, 1, 30, 0, 330⟩ :=
      ⟨by decide, by decide, by decide, by decide, by decide, by decide⟩
    have days : Date.epoch.Distance ⟨2000, 2, 29⟩ 11016 :=
      (Date.distance_epoch_iff (by decide) 11016).mpr (by decide +kernel)
    exact (parseCivil_calendar.1 _ _ text there _).mp ⟨11016, days, by decide⟩
  · refine parseCivil_calendar.2.1 _ ?_
    rintro ⟨f, text, there⟩
    have read : civilFields? "2001-02-29T01:30:00" = some ⟨2001, 2, 29, 1, 30, 0, 0⟩ := by
      decide +kernel
    have same := Option.some.inj (read.symm.trans (civilFields?_eq_some_iff.mpr text))
    subst same
    exact absurd there.day.2 (by decide)

end ScanSetup.Time
