import ScanSetup.Proofs.Text.Digit
import ScanSetup.Time.Stamp

set_option autoImplicit false

namespace ScanSetup.Time

open Text Number

/-! ### The written form -/

def FixedDigits (width : Nat) (cs : List Char) : Prop :=
  cs.length = width ∧ ∀ c ∈ cs, isDigit c = true

/-- The fraction of a second: nothing, or a mark and at least one digit. -/
inductive FractionText : List Char → Prop
  | absent : FractionText []
  | written {mark : Char} {digits : List Char} (either : mark = '.' ∨ mark = ',')
      (some : digits ≠ []) (all : ∀ c ∈ digits, isDigit c = true) : FractionText (mark :: digits)

/-- An offset without its sign, in minutes: hours, and minutes with an optional colon. -/
inductive OffsetText : List Char → Nat → Prop
  | hours {hour : List Char} (digits : FixedDigits 2 hour) : OffsetText hour (60 * digitsValue hour)
  | minutes {hour colon minute : List Char} (digits : FixedDigits 2 hour)
      (either : colon = [] ∨ colon = [':']) (more : FixedDigits 2 minute) :
      OffsetText (hour ++ (colon ++ minute)) (60 * digitsValue hour + digitsValue minute)

/-- The offset from UTC in minutes: none, `Z`, or a signed offset. -/
inductive ZoneText : List Char → Int → Prop
  | absent : ZoneText [] 0
  | utc : ZoneText ['Z'] 0
  | ahead {offset : List Char} {minutes : Nat} (written : OffsetText offset minutes) :
      ZoneText ('+' :: offset) minutes
  | behind {offset : List Char} {minutes : Nat} (written : OffsetText offset minutes) :
      ZoneText ('-' :: offset) (-minutes)

/-- A date and time of day, with white space around it. -/
inductive CivilText : List Char → CivilFields → Prop
  | written {front year month day hour minute second fraction offset back : List Char} {zone : Int}
      (front_blank : ∀ c ∈ front, isBlank c = true)
      (year_digits : FixedDigits 4 year) (month_digits : FixedDigits 2 month)
      (day_digits : FixedDigits 2 day) (hour_digits : FixedDigits 2 hour)
      (minute_digits : FixedDigits 2 minute) (second_digits : FixedDigits 2 second)
      (fraction_text : FractionText fraction) (zone_text : ZoneText offset zone)
      (back_blank : ∀ c ∈ back, isBlank c = true) :
      CivilText
        (front ++ (year ++ '-' :: (month ++ '-' :: (day ++ 'T' :: (hour ++ ':' :: (minute ++ ':' ::
          (second ++ (fraction ++ (offset ++ back)))))))))
        ⟨digitsValue year, digitsValue month, digitsValue day, digitsValue hour,
          digitsValue minute, digitsValue second, zone⟩

/-! ### Reading the parts -/

variable {width value : Nat} {cs rest : List Char}

theorem takeDigits?_eq_some_iff : takeDigits? width cs = some (value, rest) ↔
    ∃ digits, FixedDigits width digits ∧ digitsValue digits = value ∧ digits ++ rest = cs := by
  unfold takeDigits?
  dsimp only
  constructor
  · intro read
    split at read
    · rename_i all
      cases read
      exact ⟨cs.take width, ⟨all.1, List.all_eq_true.mp all.2⟩, rfl, List.take_append_drop width cs⟩
    · cases read
  · rintro ⟨digits, ⟨length, all⟩, rfl, rfl⟩
    subst length
    rw [List.take_left, List.drop_left, if_pos ⟨rfl, List.all_eq_true.mpr all⟩]

theorem takeDigits?_append {digits : List Char} (all : FixedDigits width digits) :
    takeDigits? width (digits ++ rest) = some (digitsValue digits, rest) :=
  takeDigits?_eq_some_iff.mpr ⟨digits, all, rfl, rfl⟩

theorem FixedDigits.head (digits : FixedDigits width cs) (positive : 0 < width) :
    ∃ first more, cs = first :: more ∧ isDigit first = true := by
  obtain ⟨first, more, rfl⟩ := List.exists_cons_of_length_pos (by rwa [digits.1])
  exact ⟨first, more, rfl, digits.2 first List.mem_cons_self⟩

theorem FixedDigits.dropWhile_append {front : List Char} (digits : FixedDigits width cs)
    (positive : 0 < width) (blank : ∀ c ∈ front, isBlank c = true) (rest : List Char) :
    (front ++ (cs ++ rest)).dropWhile isBlank = cs ++ rest := by
  obtain ⟨first, more, rfl, digit⟩ := digits.head positive
  refine (span_append blank ?_).2
  rintro _ ⟨⟩
  exact isBlank_eq_false digit

theorem takeChar?_eq_some_iff {c : Char} : takeChar? c cs = some rest ↔ c :: rest = cs := by
  cases cs with
  | nil => simp [takeChar?]
  | cons d tail =>
    by_cases same : d = c
    · simp [takeChar?, same, eq_comm]
    · simp [takeChar?, same, Ne.symm same]

theorem takeChar?_cons (c : Char) : takeChar? c (c :: rest) = some rest :=
  takeChar?_eq_some_iff.mpr rfl

theorem skipFraction_spec (cs : List Char) :
    ∃ fraction, FractionText fraction ∧ fraction ++ skipFraction cs = cs := by
  unfold skipFraction
  split
  · rename_i mark digit rest
    split
    · rename_i written
      simp only [Bool.and_eq_true, Bool.or_eq_true, beq_iff_eq] at written
      refine ⟨mark :: digit :: rest.takeWhile isDigit, .written written.1 (by simp) ?_, ?_⟩
      · exact List.forall_mem_cons.mpr ⟨written.2, fun c => List.mem_takeWhile_imp⟩
      · rw [List.cons_append, List.cons_append, List.takeWhile_append_dropWhile]
    · exact ⟨[], .absent, rfl⟩
  · exact ⟨[], .absent, rfl⟩

theorem skipFraction_append {fraction : List Char} (text : FractionText fraction)
    (stop : ∀ c ∈ rest.head?, isDigit c = false ∧ c ≠ '.' ∧ c ≠ ',') :
    skipFraction (fraction ++ rest) = rest := by
  cases text with
  | absent =>
    rw [List.nil_append]
    unfold skipFraction
    split
    · rename_i mark digit tail
      obtain ⟨-, point, comma⟩ := stop mark rfl
      simp [point, comma]
    · rfl
  | @written mark digits either some all =>
    obtain ⟨first, more, rfl⟩ := List.exists_cons_of_ne_nil some
    obtain ⟨here, later⟩ := List.forall_mem_cons.mp all
    have marked : (mark == '.' || mark == ',') = true := by simpa using either
    have left := (span_append later fun c member => (stop c member).1).2
    simp only [List.cons_append, skipFraction, marked, here, Bool.and_self, ↓reduceIte, left]

/-- What is read as an offset behind its sign: hours that stand there, and minutes if they do. -/
theorem takeZoneMinutes_spec {hour : List Char} (digits : FixedDigits 2 hour) (cs : List Char) :
    ∃ offset, OffsetText (hour ++ offset) (60 * digitsValue hour + (takeZoneMinutes cs).1) ∧
      offset ++ (takeZoneMinutes cs).2 = cs := by
  have alone : OffsetText (hour ++ []) (60 * digitsValue hour + 0) := by
    rw [List.append_nil]
    exact .hours digits
  obtain ⟨colon, either, split⟩ : ∃ colon, (colon = [] ∨ colon = [':']) ∧
      colon ++ (takeChar? ':' cs).getD cs = cs := by
    cases marked : takeChar? ':' cs with
    | none => exact ⟨[], .inl rfl, rfl⟩
    | some rest => exact ⟨[':'], .inr rfl, takeChar?_eq_some_iff.mp marked⟩
  unfold takeZoneMinutes
  dsimp only
  cases read : takeDigits? 2 ((takeChar? ':' cs).getD cs) with
  | none => exact ⟨[], alone, rfl⟩
  | some found =>
    obtain ⟨minute, more, value, joined⟩ := takeDigits?_eq_some_iff.mp read
    refine ⟨colon ++ minute, ?_, ?_⟩
    · rw [Option.getD_some, ← value]
      exact .minutes digits either more
    · rw [Option.getD_some, List.append_assoc, joined, split]

theorem takeZone_spec (cs : List Char) :
    ∃ offset, ZoneText offset (takeZone cs).1 ∧ offset ++ (takeZone cs).2 = cs := by
  unfold takeZone
  split
  · exact ⟨['Z'], .utc, rfl⟩
  · rename_i c rest _
    split
    · rename_i signed
      cases read : takeDigits? 2 rest with
      | none => exact ⟨[], .absent, rfl⟩
      | some found =>
        obtain ⟨hour, digits, value, joined⟩ := takeDigits?_eq_some_iff.mp read
        obtain ⟨minute, written, split⟩ := takeZoneMinutes_spec digits found.2
        rw [value] at written
        have whole : c :: (hour ++ minute) ++ (takeZoneMinutes found.2).2 = c :: rest := by
          rw [List.cons_append, List.append_assoc, split, joined]
        refine ⟨c :: (hour ++ minute), ?_, whole⟩
        dsimp only
        by_cases minus : c = '-'
        · subst minus
          exact .behind written
        · have plus : c = '+' := by simpa [minus] using signed
          subst plus
          exact .ahead written
    · exact ⟨[], .absent, rfl⟩
  · exact ⟨[], .absent, rfl⟩

theorem takeZoneMinutes_append {colon minute : List Char} (either : colon = [] ∨ colon = [':'])
    (digits : FixedDigits 2 minute) :
    takeZoneMinutes (colon ++ minute ++ rest) = (digitsValue minute, rest) := by
  have unmarked : (takeChar? ':' (colon ++ minute ++ rest)).getD (colon ++ minute ++ rest) =
      minute ++ rest := by
    rcases either with rfl | rfl
    · obtain ⟨first, more, rfl, digit⟩ := digits.head (by decide)
      have other : first ≠ ':' := by
        rintro rfl
        exact absurd digit (by decide +kernel)
      simp [takeChar?, other]
    · simp [takeChar?]
  unfold takeZoneMinutes
  dsimp only
  rw [unmarked, takeDigits?_append digits, Option.getD_some]

theorem takeZoneMinutes_blank (back : ∀ c ∈ rest, isBlank c = true) :
    takeZoneMinutes rest = (0, rest) := by
  have unmarked : takeChar? ':' rest = none := by
    refine Option.eq_none_iff_forall_ne_some.mpr fun tail marked => ?_
    rw [← takeChar?_eq_some_iff.mp marked] at back
    exact absurd (back ':' List.mem_cons_self) (by decide +kernel)
  have unread : takeDigits? 2 rest = none := by
    refine Option.eq_none_iff_forall_ne_some.mpr fun found read => ?_
    obtain ⟨digits, all, -, joined⟩ := takeDigits?_eq_some_iff.mp read
    obtain ⟨first, more, rfl, digit⟩ := all.head (by decide)
    have blank : isBlank first = true := back first (by rw [← joined]; exact List.mem_cons_self)
    rw [isBlank_eq_false digit] at blank
    cases blank
  unfold takeZoneMinutes
  dsimp only
  rw [unmarked, Option.getD_none, unread, Option.getD_none]

theorem takeOffset_append {offset : List Char} {minutes : Nat} (written : OffsetText offset minutes)
    (back : ∀ c ∈ rest, isBlank c = true) :
    ∃ hours left, takeDigits? 2 (offset ++ rest) = some (hours, left) ∧
      (takeZoneMinutes left).2 = rest ∧ 60 * hours + (takeZoneMinutes left).1 = minutes := by
  cases written with
  | hours digits =>
    refine ⟨_, rest, takeDigits?_append digits, ?_⟩
    rw [takeZoneMinutes_blank back]
    exact ⟨rfl, rfl⟩
  | @minutes hour colon minute digits either more =>
    refine ⟨digitsValue hour, colon ++ minute ++ rest, ?_, ?_⟩
    · rw [List.append_assoc hour]
      exact takeDigits?_append digits
    · rw [takeZoneMinutes_append either more]
      exact ⟨rfl, rfl⟩

theorem takeZone_sign {c : Char} {hours : Nat} (sign : c = '+' ∨ c = '-')
    (read : takeDigits? 2 cs = some (hours, rest)) :
    takeZone (c :: cs) =
      (if c == '-' then -(60 * (hours : Int) + (takeZoneMinutes rest).1)
        else 60 * (hours : Int) + (takeZoneMinutes rest).1, (takeZoneMinutes rest).2) := by
  have signed : (c == '+' || c == '-') = true := by simpa using sign
  have zulu : c ≠ 'Z' := by rcases sign with rfl | rfl <;> decide
  simp only [takeZone, signed, ↓reduceIte, read]

theorem takeZone_unsigned {c : Char} (zulu : c ≠ 'Z') (plus : c ≠ '+') (minus : c ≠ '-') :
    takeZone (c :: cs) = (0, c :: cs) := by
  simp [takeZone, plus, minus]

theorem takeZone_append {offset : List Char} {zone : Int} (text : ZoneText offset zone)
    (back : ∀ c ∈ rest, isBlank c = true) : takeZone (offset ++ rest) = (zone, rest) := by
  cases text with
  | absent =>
    cases rest with
    | nil => rfl
    | cons c rest =>
      have blank : isBlank c = true := back c List.mem_cons_self
      exact takeZone_unsigned (ne_of_isBlank blank (by decide +kernel))
        (ne_of_isBlank blank (by decide +kernel)) (ne_of_isBlank blank (by decide +kernel))
  | utc => rfl
  | ahead written =>
    obtain ⟨hours, left, read, tail, total⟩ := takeOffset_append written back
    rw [List.cons_append, takeZone_sign (.inl rfl) read, tail, ← total]
    rfl
  | behind written =>
    obtain ⟨hours, left, read, tail, total⟩ := takeOffset_append written back
    rw [List.cons_append, takeZone_sign (.inr rfl) read, tail, ← total]
    rfl

/-- Neither an offset nor the white space behind it continues a fraction. -/
theorem zone_stop {offset : List Char} {zone : Int} (text : ZoneText offset zone)
    (back : ∀ c ∈ rest, isBlank c = true) :
    ∀ c ∈ (offset ++ rest).head?, isDigit c = false ∧ c ≠ '.' ∧ c ≠ ',' := by
  intro c first
  cases text with
  | absent =>
    have blank : isBlank c = true := back c (List.mem_of_mem_head? first)
    exact ⟨isDigit_eq_false blank, ne_of_isBlank blank (by decide +kernel),
      ne_of_isBlank blank (by decide +kernel)⟩
  | utc =>
    cases first
    decide +kernel
  | ahead written =>
    cases first
    decide +kernel
  | behind written =>
    cases first
    decide +kernel

/-- A text is read as a date and time of day exactly if it is one, with the fields it writes. -/
theorem civilFields?_eq_some_iff {spec : String} {f : CivilFields} :
    civilFields? spec = some f ↔ CivilText spec.toList f := by
  constructor
  · intro read
    simp only [civilFields?, Option.bind_eq_bind, Option.bind_eq_some_iff,
      takeDigits?_eq_some_iff, takeChar?_eq_some_iff, Prod.exists] at read
    obtain ⟨_, _, ⟨year, year_digits, rfl, year_rest⟩, _, rfl, _, _,
      ⟨month, month_digits, rfl, month_rest⟩, _, rfl, _, _, ⟨day, day_digits, rfl, day_rest⟩, _,
      rfl, _, _, ⟨hour, hour_digits, rfl, hour_rest⟩, _, rfl, _, _,
      ⟨minute, minute_digits, rfl, minute_rest⟩, _, rfl, _, tail,
      ⟨second, second_digits, rfl, second_rest⟩, made⟩ := read
    obtain ⟨fraction, fraction_text, fraction_rest⟩ := skipFraction_spec tail
    obtain ⟨offset, zone_text, zone_rest⟩ := takeZone_spec (skipFraction tail)
    split at made
    · rename_i blank
      cases made
      have front_blank : ∀ c ∈ spec.toList.takeWhile isBlank, isBlank c = true :=
        fun c => List.mem_takeWhile_imp
      have whole := CivilText.written front_blank year_digits month_digits day_digits hour_digits
        minute_digits second_digits fraction_text zone_text (List.all_eq_true.mp blank)
      rwa [zone_rest, fraction_rest, second_rest, minute_rest, hour_rest, day_rest, month_rest,
        year_rest, List.takeWhile_append_dropWhile] at whole
    · cases made
  · intro text
    generalize spec_chars : spec.toList = chars at text
    cases text with
    | @written front year month day hour minute second fraction offset back zone front_blank
        year_digits month_digits day_digits hour_digits minute_digits second_digits fraction_text
        zone_text back_blank =>
      simp only [civilFields?, spec_chars, year_digits.dropWhile_append (by decide) front_blank,
        Option.bind_eq_bind, Option.bind_some,
        takeDigits?_append year_digits, takeDigits?_append month_digits,
        takeDigits?_append day_digits, takeDigits?_append hour_digits,
        takeDigits?_append minute_digits, takeDigits?_append second_digits, takeChar?_cons,
        skipFraction_append fraction_text (zone_stop zone_text back_blank),
        takeZone_append zone_text back_blank, List.all_eq_true.mpr back_blank, ↓reduceIte]

end ScanSetup.Time
