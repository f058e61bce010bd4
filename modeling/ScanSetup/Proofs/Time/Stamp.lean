import ScanSetup.Proofs.Text.Digit
import ScanSetup.Time.Stamp

set_option autoImplicit false

namespace ScanSetup

open Text Number

theorem Number.signedValue_natAbs (negative : Bool) (digits : List Char) :
    (signedValue negative digits).natAbs = digitsValue digits := by
  cases negative <;> simp [signedValue]

namespace Time

/-- If a text is plain seconds, the number at its start can be read: only white space without
information separators precedes it, and its digits are not too many. -/
def Legible (spec : String) : Prop :=
  isPlain spec = true →
    let digits := (signedDigits (spec.toList.dropWhile isBlank)).2
    digits ≠ [] →
      (∀ c ∈ spec.toList.takeWhile isBlank, isInformationSeparator c = false) ∧
        digits.length ≤ maxIntegerDigits

theorem legible_iff {spec : String} (plain : isPlain spec = true) :
    Legible spec ↔ ∃ instant, parsePlain spec = .ok instant := by
  simp only [Legible, plain, forall_const, parsePlain]
  generalize spec.toList.takeWhile isBlank = blanks
  generalize spec.toList.dropWhile isBlank = rest
  split
  · rename_i none
    simp [List.isEmpty_iff.mp none]
  · rename_i some
    have digits : (signedDigits rest).2 ≠ [] := by simpa using some
    split
    · rename_i separated
      obtain ⟨c, member, separator⟩ := List.any_eq_true.mp separated
      refine iff_of_false ?_ (by simp)
      intro legible
      rw [(legible digits).1 c member] at separator
      cases separator
    · rename_i clean
      have apart : ∀ c ∈ blanks, isInformationSeparator c = false := by simpa using clean
      split
      · rename_i long
        refine iff_of_false ?_ (by simp)
        intro legible
        exact Nat.not_lt.mpr (legible digits).2 long
      · rename_i short
        exact iff_of_true (fun _ => ⟨apart, Nat.le_of_not_lt short⟩) ⟨_, rfl⟩

def ones (count : Nat) : String := String.ofList (List.replicate count '1')

theorem isPlain_ones (count : Nat) : isPlain (ones count) = true := by
  simp [isPlain, ones]

theorem parsePlain_ones {count : Nat} (long : maxIntegerDigits < count) :
    parsePlain (ones count) = .error (.tooManyDigits count) := by
  have blank : isBlank '1' = false := by decide +kernel
  have digit : isDigit '1' = true := by decide +kernel
  obtain ⟨fewer, rfl⟩ : ∃ fewer, count = fewer + 1 := ⟨count - 1, by omega⟩
  have sign : Decimal.takeSign (List.replicate (fewer + 1) '1') =
      (false, List.replicate (fewer + 1) '1') := rfl
  simp only [parsePlain, ones, String.toList_ofList, List.takeWhile_replicate,
    List.dropWhile_replicate, blank, signedDigits, sign, digit, ↓reduceIte, Bool.false_eq_true,
    List.length_replicate]
  simp [long]

theorem legible_iff_parseStamp (now : Binary64) (spec : String) :
    Legible spec ↔ ∀ fault, parseStamp now spec ≠ .error (.plain fault) := by
  by_cases plain : isPlain spec = true
  · rw [legible_iff plain]
    simp only [parseStamp, plain, ↓reduceIte]
    cases parsePlain spec with
    | error fault => simp
    | ok instant =>
      refine iff_of_true ⟨instant, rfl⟩ ?_
      intro fault
      dsimp only
      split <;> simp
  · refine iff_of_true (fun other => absurd other plain) ?_
    intro fault
    simp only [parseStamp, plain, Bool.false_eq_true, ↓reduceIte]
    split <;> simp

theorem parsePlain_lt {spec : String} {instant : Int} (read : parsePlain spec = .ok instant) :
    instant.natAbs < Nat.pow 10 maxIntegerDigits := by
  unfold parsePlain at read
  dsimp only at read
  split at read
  · cases read
    decide +kernel
  · split at read
    · cases read
    · split at read
      · cases read
      · rename_i short
        cases read
        have most := Nat.le_of_not_lt short
        rw [signedValue_natAbs]
        generalize maxIntegerDigits = bound at most ⊢
        exact Nat.lt_of_lt_of_le (digitsValue_lt _) (Nat.pow_le_pow_right (by decide) most)

theorem takeDigits?_lt {width value : Nat} {cs rest : List Char}
    (read : takeDigits? width cs = some (value, rest)) : value < Nat.pow 10 width := by
  unfold takeDigits? at read
  dsimp only at read
  split at read
  · rename_i exact_width
    cases read
    have bound := digitsValue_lt (cs.take width)
    rwa [exact_width.1] at bound
  · cases read

theorem civilFields?_year {spec : String} {f : CivilFields} (read : civilFields? spec = some f) :
    f.year < 10000 := by
  simp only [civilFields?, Option.bind_eq_bind, Option.bind_eq_some_iff] at read
  obtain ⟨⟨year, rest⟩, first, _, -, _, -, _, -, _, -, _, -, _, -, _, -, _, -, _, -, _, -, made⟩ :=
    read
  split at made
  · cases made
    exact takeDigits?_lt first
  · cases made

theorem daysInMonth_le (year : Int) (month : Nat) : daysInMonth year month ≤ 31 := by
  unfold daysInMonth
  split <;> first | omega | (split <;> omega)

theorem daysBeforeMonth_le (year : Int) (month : Nat) :
    daysBeforeMonth year month ≤ 31 * month := by
  have bound : ∀ months : List Nat,
      ((months.map (daysInMonth year)).foldr (· + ·) 0) ≤ 31 * months.length := by
    intro months
    induction months with
    | nil => exact Nat.le_refl _
    | cons month rest ih =>
      have here := daysInMonth_le year month
      simp only [List.map_cons, List.foldr_cons, List.length_cons]
      omega
  simpa [daysBeforeMonth] using bound (List.range month)

theorem month_le_of_isValid {d : Date} (valid : d.isValid = true) : d.month ≤ 12 ∧ d.day ≤ 31 := by
  simp only [Date.isValid, Bool.and_eq_true, decide_eq_true_eq] at valid
  have bound := daysInMonth_le d.year d.month
  refine ⟨?_, by omega⟩
  refine Nat.le_of_not_lt fun beyond => ?_
  have none : daysInMonth d.year d.month = 0 := by
    unfold daysInMonth
    split <;> omega
  omega

/-- The instants of valid civil times have at most twelve digits. -/
theorem toSeconds_bounds {f : CivilFields} (valid : f.isValid = true) (year : f.year < 10000) :
    f.toSeconds.natAbs < 1000000000000 := by
  simp only [CivilFields.isValid, Bool.and_eq_true, decide_eq_true_eq] at valid
  obtain ⟨⟨⟨⟨⟨least, date⟩, hour⟩, minute⟩, second⟩, zone⟩ := valid
  obtain ⟨month, day⟩ := month_le_of_isValid date
  have before := daysBeforeMonth_le f.year f.month
  have epoch : epochDays = 719162 := by decide +kernel
  simp only [CivilFields.toSeconds, Date.toDays, epoch, daysBeforeYear] at month day ⊢
  omega

theorem parseCivil_lt (spec : String) : (parseCivil spec).natAbs < Nat.pow 10 maxIntegerDigits := by
  have enough : 1000000000000 ≤ Nat.pow 10 maxIntegerDigits := by decide +kernel
  unfold parseCivil
  split
  · exact Nat.lt_of_lt_of_le (by decide) enough
  · rename_i f read
    split
    · rename_i valid
      exact Nat.lt_of_lt_of_le (toSeconds_bounds valid (civilFields?_year read)) enough
    · exact Nat.lt_of_lt_of_le (by decide) enough

theorem parseStamp_lt {now : Binary64} {spec : String} {stamp : Stamp}
    (read : parseStamp now spec = .ok stamp) :
    stamp.instant.natAbs < Nat.pow 10 maxIntegerDigits := by
  unfold parseStamp at read
  dsimp only at read
  split at read
  · cases read
  · rename_i instant written
    split at read
    · cases read
    · cases read
      show instant.natAbs < _
      split at written
      · exact parsePlain_lt written
      · cases written
        exact parseCivil_lt spec

end Time

end ScanSetup
