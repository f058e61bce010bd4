import ScanSetup.Proofs.Number.Significant
import ScanSetup.Proofs.Text.Case
import ScanSetup.Size

set_option autoImplicit false

namespace ScanSetup.Size

open Text Number

/-- The suffix of a unit, in any case. -/
def UnitText (suffix : List Char) : Prop :=
  ∃ unit ∈ units, unit.suffix = lower (String.ofList suffix)

/-- A number and an optional suffix, with white space around them. -/
inductive SizeText : List Char → Decimal → List Char → Prop
  | written {front text middle suffix back : List Char} {d : Decimal}
      (front_blank : ∀ c ∈ front, isBlank c = true) (number : Decimal.DecimalText text d)
      (middle_blank : ∀ c ∈ middle, isBlank c = true) (unit : suffix = [] ∨ UnitText suffix)
      (back_blank : ∀ c ∈ back, isBlank c = true) :
      SizeText (front ++ (text ++ (middle ++ (suffix ++ back)))) d suffix

/-- The text is a size, and its number is not negative. -/
def Accepted (spec : String) : Prop :=
  ∃ d suffix, SizeText spec.toList d suffix ∧ ¬d.value < 0

/-- The suffix is a unit, and the product by it is too large. Numbers alone are not. -/
def Overflows (d : Decimal) (suffix : List Char) : Prop :=
  ∃ unit ∈ units, unit.suffix = lower (String.ofList suffix) ∧
    Decimal.productLimit ≤ d.value * unit.multiplier

/-- A size whose product with its unit is too large. -/
def TooLarge (spec : String) : Prop :=
  ∃ d suffix, SizeText spec.toList d suffix ∧ ¬d.value < 0 ∧ Overflows d suffix

/-- The bytes that a number and a suffix stand for, if their product is not too large. -/
def bytes (d : Decimal) (suffix : List Char) : Nat :=
  match unit? (String.ofList suffix) with
  | none => d.roundHalfUp
  | some unit => d.scaleDown unit.multiplier

variable {spec : String} {suffix rest : List Char} {d : Decimal} {unit : Unit}

theorem unit?_nil : unit? (String.ofList []) = none := by decide +kernel

theorem unit?_isSome_iff (suffix : List Char) :
    (unit? (String.ofList suffix)).isSome = true ↔ UnitText suffix := by
  simp [unit?, UnitText, List.find?_isSome]

/-- The suffixes are distinct, so each one is found under its own text. -/
theorem unit?_eq_some_iff :
    unit? (String.ofList suffix) = some unit ↔
      unit ∈ units ∧ unit.suffix = lower (String.ofList suffix) := by
  have distinct : ∀ u ∈ units, ∀ v ∈ units, u.suffix = v.suffix → u = v := by decide
  constructor
  · intro found
    exact ⟨List.mem_of_find?_eq_some found, by simpa using List.find?_some found⟩
  · rintro ⟨member, named⟩
    obtain ⟨other, found⟩ :=
      Option.isSome_iff_exists.mp ((unit?_isSome_iff suffix).mpr ⟨unit, member, named⟩)
    have same : other.suffix = lower (String.ofList suffix) := by simpa using List.find?_some found
    rw [found, distinct other (List.mem_of_find?_eq_some found) unit member (same.trans named.symm)]

theorem overflows_iff (nonnegative : ¬d.value < 0)
    (known : unit? (String.ofList suffix) = some unit) :
    Overflows d suffix ↔ d.overflows unit.multiplier = true := by
  rw [Decimal.overflows_iff nonnegative]
  constructor
  · rintro ⟨other, member, named, reached⟩
    rw [unit?_eq_some_iff.mpr ⟨member, named⟩] at known
    cases known
    exact reached
  · intro reached
    obtain ⟨member, named⟩ := unit?_eq_some_iff.mp known
    exact ⟨unit, member, named, reached⟩

theorem not_overflows_nil (d : Decimal) : ¬Overflows d [] := by
  rintro ⟨unit, member, named, -⟩
  have found := unit?_eq_some_iff.mpr ⟨member, named⟩
  rw [unit?_nil] at found
  cases found

/-- A suffix has none of the characters that bound it. -/
theorem UnitText.inside (unit_text : UnitText suffix) :
    ∀ c ∈ suffix, isBlank c = false ∧ isDigit c = false ∧ c ≠ '.' := by
  have letters : (units.all fun unit => unit.suffix.toList.all fun c =>
      !isBlank c && !isDigit c && c != '.') = true := by decide +kernel
  obtain ⟨unit, member, same⟩ := unit_text
  intro c inside
  have kept (caseless : Caseless c) : isBlank c = false ∧ isDigit c = false ∧ c ≠ '.' := by
    have lowered : c ∈ unit.suffix.toList := by
      rw [same, lower, String.toList_ofList, String.toList_ofList]
      exact caseless.mem_lowerFrom inside []
    simpa [and_assoc] using List.all_eq_true.mp (List.all_eq_true.mp letters unit member) c lowered
  refine ⟨?_, ?_, ?_⟩
  · by_contra blank
    have blank : isBlank c = true := by simpa using blank
    exact absurd (kept (.of_isBlank blank)).1 (by simp [blank])
  · by_contra digit
    have digit : isDigit c = true := by simpa using digit
    exact absurd (kept (.of_isDigit digit)).2.1 (by simp [digit])
  · rintro rfl
    exact (kept .point).2.2 rfl

theorem SizeText.scan?_eq {cs : List Char} (form : SizeText cs d suffix) :
    ∃ rest, Decimal.scan? (cs.dropWhile isBlank) = some (d, rest) ∧ trim rest = suffix := by
  cases form with
  | @written front text middle _ back _ front_blank number middle_blank unit back_blank =>
    have inside : ∀ c ∈ suffix, isBlank c = false ∧ isDigit c = false ∧ c ≠ '.' := by
      rcases unit with rfl | unit_text
      · simp
      · exact unit_text.inside
    have start : (front ++ (text ++ (middle ++ (suffix ++ back)))).dropWhile isBlank =
        text ++ (middle ++ (suffix ++ back)) :=
      (span_append front_blank (number.head?_not_blank _)).2
    refine ⟨middle ++ (suffix ++ back), ?_, ?_⟩
    · rw [start]
      refine number.scan?_eq fun c first => ?_
      have member := List.mem_of_mem_head? first
      have bound (blank : isBlank c = true) : isDigit c = false ∧ c ≠ '.' :=
        ⟨isDigit_eq_false blank, ne_of_isBlank blank (by decide +kernel)⟩
      rcases List.mem_append.mp member with before | member
      · exact bound (middle_blank c before)
      · rcases List.mem_append.mp member with within | behind
        · exact (inside c within).2
        · exact bound (back_blank c behind)
    · exact trim_append middle_blank (fun c member => (inside c member).1) back_blank

theorem parse_of_none (none_read : Decimal.scan? (spec.toList.dropWhile isBlank) = none) :
    parse spec = rejected .notANumber spec := by
  simp only [parse, none_read]

theorem parse_of_negative (read : Decimal.scan? (spec.toList.dropWhile isBlank) = some (d, rest))
    (negative : d.value < 0) : parse spec = rejected .negativeSize spec := by
  simp only [parse, read, d.isNegative_iff.mpr negative, ↓reduceIte]

theorem parse_of_bare (read : Decimal.scan? (spec.toList.dropWhile isBlank) = some (d, rest))
    (nonnegative : ¬d.value < 0) (bare : trim rest = []) : parse spec = .ok d.roundHalfUp := by
  have positive := Bool.eq_false_iff.mpr (mt d.isNegative_iff.mp nonnegative)
  simp only [parse, read, positive, Bool.false_eq_true, ↓reduceIte, bare]

theorem parse_of_unknown (read : Decimal.scan? (spec.toList.dropWhile isBlank) = some (d, rest))
    (nonnegative : ¬d.value < 0) (some_suffix : trim rest ≠ [])
    (unknown : unit? (String.ofList (trim rest)) = none) :
    parse spec = rejected .unknownUnit spec := by
  have positive := Bool.eq_false_iff.mpr (mt d.isNegative_iff.mp nonnegative)
  obtain ⟨c, more, suffix⟩ := List.exists_cons_of_ne_nil some_suffix
  rw [suffix] at unknown
  simp only [parse, read, positive, Bool.false_eq_true, ↓reduceIte, suffix, unknown]

theorem parse_of_unit
    (read : Decimal.scan? (spec.toList.dropWhile isBlank) = some (d, rest))
    (nonnegative : ¬d.value < 0) (some_suffix : trim rest ≠ [])
    (known : unit? (String.ofList (trim rest)) = some unit) :
    parse spec = if d.overflows unit.multiplier then .error .overflow
      else .ok (d.scaleDown unit.multiplier) := by
  have positive := Bool.eq_false_iff.mpr (mt d.isNegative_iff.mp nonnegative)
  obtain ⟨c, more, suffix⟩ := List.exists_cons_of_ne_nil some_suffix
  rw [suffix] at known
  simp only [parse, read, positive, Bool.false_eq_true, ↓reduceIte, suffix, known]

theorem SizeText.unit_text {cs : List Char} (form : SizeText cs d suffix) :
    suffix = [] ∨ UnitText suffix := by
  cases form with
  | written _ _ _ unit _ => exact unit

/-- A number that is read, and behind it white space and at most a unit, are a size. -/
theorem SizeText.of_scan? (read : Decimal.scan? (spec.toList.dropWhile isBlank) = some (d, rest))
    (unit : trim rest = [] ∨ UnitText (trim rest)) : SizeText spec.toList d (trim rest) := by
  obtain ⟨text, number, split⟩ := Decimal.scan?_sound read
  obtain ⟨middle, back, middle_blank, back_blank, trimmed⟩ := trim_spec rest
  have front_blank : ∀ c ∈ spec.toList.takeWhile isBlank, isBlank c = true :=
    fun c => List.mem_takeWhile_imp
  have form := SizeText.written front_blank number middle_blank unit back_blank
  rwa [trimmed, split, List.takeWhile_append_dropWhile] at form

/-- A size that is not negative is read as its bytes, unless their product is too large. -/
theorem SizeText.parse_eq (form : SizeText spec.toList d suffix) (nonnegative : ¬d.value < 0) :
    (¬Overflows d suffix → parse spec = .ok (bytes d suffix)) ∧
      (Overflows d suffix → parse spec = .error .overflow) := by
  obtain ⟨rest, read, rfl⟩ := form.scan?_eq
  by_cases bare : trim rest = []
  · rw [bare, bytes, unit?_nil]
    exact ⟨fun _ => parse_of_bare read nonnegative bare,
      fun exceeds => absurd exceeds (not_overflows_nil d)⟩
  · have unit_text := form.unit_text.resolve_left bare
    obtain ⟨unit, found⟩ := Option.isSome_iff_exists.mp ((unit?_isSome_iff _).mpr unit_text)
    rw [parse_of_unit read nonnegative bare found, overflows_iff nonnegative found, bytes, found]
    constructor
    · intro fits
      rw [if_neg fits]
    · intro exceeds
      rw [if_pos exceeds]

theorem accepted_iff (read : Decimal.scan? (spec.toList.dropWhile isBlank) = some (d, rest)) :
    Accepted spec ↔ ¬d.value < 0 ∧ (trim rest = [] ∨ UnitText (trim rest)) := by
  constructor
  · rintro ⟨e, suffix, form, nonnegative⟩
    obtain ⟨left, other_read, trimmed⟩ := form.scan?_eq
    rw [read] at other_read
    cases other_read
    rw [trimmed]
    exact ⟨nonnegative, form.unit_text⟩
  · rintro ⟨nonnegative, unit⟩
    exact ⟨d, trim rest, .of_scan? read unit, nonnegative⟩

theorem not_accepted (none_read : Decimal.scan? (spec.toList.dropWhile isBlank) = none) :
    ¬Accepted spec := by
  rintro ⟨d, suffix, form, -⟩
  obtain ⟨rest, read, -⟩ := form.scan?_eq
  rw [none_read] at read
  cases read

theorem parse_cases (spec : String) :
    (Decimal.scan? (spec.toList.dropWhile isBlank) = none ∧ ¬Accepted spec ∧
      parse spec = rejected .notANumber spec) ∨
    ∃ d rest, Decimal.scan? (spec.toList.dropWhile isBlank) = some (d, rest) ∧
      ((d.value < 0 ∧ ¬Accepted spec ∧ parse spec = rejected .negativeSize spec) ∨
        (¬d.value < 0 ∧ Accepted spec ∧ SizeText spec.toList d (trim rest)) ∨
        (¬d.value < 0 ∧ ¬Accepted spec ∧ parse spec = rejected .unknownUnit spec)) := by
  cases read : Decimal.scan? (spec.toList.dropWhile isBlank) with
  | none => exact .inl ⟨rfl, not_accepted read, parse_of_none read⟩
  | some found =>
    obtain ⟨d, rest⟩ := found
    have accepted := accepted_iff read
    refine .inr ⟨d, rest, rfl, ?_⟩
    by_cases negative : d.value < 0
    · exact .inl ⟨negative, fun size => (accepted.mp size).1 negative,
        parse_of_negative read negative⟩
    · refine .inr ?_
      by_cases unit : trim rest = [] ∨ UnitText (trim rest)
      · exact .inl ⟨negative, accepted.mpr ⟨negative, unit⟩, .of_scan? read unit⟩
      · obtain ⟨bare, other⟩ := not_or.mp unit
        have unknown : unit? (String.ofList (trim rest)) = none := by
          rwa [← unit?_isSome_iff, Bool.not_eq_true, Option.isSome_eq_false_iff,
            Option.isNone_iff_eq_none] at other
        exact .inr ⟨negative, fun size => unit (accepted.mp size).2,
          parse_of_unknown read negative bare unknown⟩

theorem TooLarge.accepted (large : TooLarge spec) : Accepted spec := by
  obtain ⟨d, suffix, form, nonnegative, -⟩ := large
  exact ⟨d, suffix, form, nonnegative⟩

/-- A text is a size in one way only, so it is too large if it is in this one. -/
theorem SizeText.tooLarge_iff (form : SizeText spec.toList d suffix) (nonnegative : ¬d.value < 0) :
    TooLarge spec ↔ Overflows d suffix := by
  constructor
  · rintro ⟨e, other, again, -, exceeds⟩
    obtain ⟨rest, read, rfl⟩ := form.scan?_eq
    obtain ⟨left, other_read, rfl⟩ := again.scan?_eq
    rw [read] at other_read
    cases other_read
    exact exceeds
  · exact fun exceeds => ⟨d, suffix, form, nonnegative, exceeds⟩

/-- The texts that are read, those whose product is too large, and those that are rejected. -/
theorem parse_iff (spec : String) :
    ((∃ size, parse spec = .ok size) ↔ Accepted spec ∧ ¬TooLarge spec) ∧
    (parse spec = .error .overflow ↔ TooLarge spec) ∧
    (parse spec = .error (.rejected ⟨.notANumber, spec⟩) ↔
      Decimal.scan? (spec.toList.dropWhile isBlank) = none) ∧
    (parse spec = .error (.rejected ⟨.negativeSize, spec⟩) ↔
      ∃ d rest, Decimal.scan? (spec.toList.dropWhile isBlank) = some (d, rest) ∧ d.value < 0) ∧
    (parse spec = .error (.rejected ⟨.unknownUnit, spec⟩) ↔
      (∃ d rest, Decimal.scan? (spec.toList.dropWhile isBlank) = some (d, rest) ∧ ¬d.value < 0) ∧
        ¬Accepted spec) := by
  rcases parse_cases spec with
    ⟨read, size, verdict⟩ |
    ⟨d, rest, read, ⟨sign, size, verdict⟩ | ⟨sign, size, form⟩ | ⟨sign, size, verdict⟩⟩
  · simp [read, size, verdict, rejected, mt TooLarge.accepted size]
  · simp [read, size, verdict, rejected, sign, mt TooLarge.accepted size]
  · obtain ⟨fits, exceeds⟩ := form.parse_eq sign
    rw [form.tooLarge_iff sign]
    by_cases large : Overflows d (trim rest)
    · simp [exceeds large, read, size, large, not_lt.mp sign]
    · simp [fits large, read, size, large, not_lt.mp sign]
  · simp [read, size, verdict, rejected, not_lt.mp sign, mt TooLarge.accepted size]

theorem parse_eq_overflow_iff (spec : String) : parse spec = .error .overflow ↔ TooLarge spec :=
  (parse_iff spec).2.1

theorem parse_bare (form : SizeText spec.toList d []) (nonnegative : ¬d.value < 0) :
    parse spec = .ok ⌊d.value + 1 / 2⌋₊ := by
  obtain ⟨rest, read, bare⟩ := form.scan?_eq
  rw [parse_of_bare read nonnegative bare, d.roundHalfUp_eq_floor nonnegative]

theorem SizeText.of_digits {digits : List Char} (some : digits ≠ [])
    (all : ∀ c ∈ digits, isDigit c = true) (unit : suffix = [] ∨ UnitText suffix) :
    SizeText (digits ++ suffix) ⟨false, digitsValue digits, 0⟩ suffix := by
  have none : ∀ c ∈ ([] : List Char), isBlank c = true := by simp
  have written := SizeText.written none (.written .absent (.whole some all)) none unit none
  simpa using written

theorem parse_digits {digits : List Char} (some : digits ≠ [])
    (all : ∀ c ∈ digits, isDigit c = true) :
    parse (String.ofList digits) = .ok (digitsValue digits) := by
  have form : SizeText (String.ofList digits).toList ⟨false, digitsValue digits, 0⟩ [] := by
    simpa using SizeText.of_digits some all (.inl rfl)
  have value : Decimal.value ⟨false, digitsValue digits, 0⟩ = digitsValue digits := by
    simp [Decimal.value]
  have nonnegative : ¬Decimal.value ⟨false, digitsValue digits, 0⟩ < 0 := by
    rw [value]
    exact not_lt.mpr (Nat.cast_nonneg _)
  have whole : ⌊(digitsValue digits : ℚ) + 1 / 2⌋₊ = digitsValue digits := by
    rw [Nat.floor_eq_iff (by positivity)]
    constructor <;> linarith
  rw [parse_bare form nonnegative, value, whole]

/-- Exactly the sizes that are not negative are read, but for those whose product with the unit is
too large: these are neither read nor rejected. Any other text is rejected as a whole: if it does
not start with a number, or else if its longest number is negative, or else for its unit. Without a
unit the number is rounded half up, so the digits of a number are read as this number. -/
theorem parse_verdict (spec : String) :
    ((∃ size, parse spec = .ok size) ↔ Accepted spec ∧ ¬TooLarge spec) ∧
    (parse spec = .error .overflow ↔ TooLarge spec) ∧
    (parse spec = .error (.rejected ⟨.notANumber, spec⟩) ↔
      ¬∃ text d rest, Decimal.DecimalText text d ∧ text ++ rest = spec.toList.dropWhile isBlank) ∧
    (parse spec = .error (.rejected ⟨.negativeSize, spec⟩) ↔
      ∃ d rest, Decimal.Longest (spec.toList.dropWhile isBlank) d rest ∧ d.value < 0) ∧
    (parse spec = .error (.rejected ⟨.unknownUnit, spec⟩) ↔
      (∃ d rest, Decimal.Longest (spec.toList.dropWhile isBlank) d rest ∧ ¬d.value < 0) ∧
        ¬Accepted spec) ∧
    (∀ d, SizeText spec.toList d [] → ¬d.value < 0 → parse spec = .ok ⌊d.value + 1 / 2⌋₊) ∧
    ∀ n : Nat, spec = toString n → parse spec = .ok n := by
  simp only [← Decimal.scan?_eq_none_iff, ← Decimal.scan?_eq_some_iff]
  obtain ⟨read, exceeds, malformed, negative, unknown⟩ := parse_iff spec
  refine ⟨read, exceeds, malformed, negative, unknown, fun d => parse_bare, ?_⟩
  rintro n rfl
  have written : toString n = String.ofList (Nat.toDigits 10 n) := by
    rw [Nat.toString_eq_repr, ← Nat.toList_repr, String.ofList_toList]
  rw [written, parse_digits Nat.toDigits_ne_nil fun c => isDigit_of_mem_toDigits,
    digitsValue_toDigits]

/-- The two digits `1.5` of another script are rounded up. -/
theorem parse_verdict_rounded : parse " +١.٥ " = .ok 2 := by
  have space : ∀ c ∈ [' '], isBlank c = true := List.forall_mem_singleton.mpr (by decide +kernel)
  have one : ∀ c ∈ ['١'], isDigit c = true := List.forall_mem_singleton.mpr (by decide +kernel)
  have five : ∀ c ∈ ['٥'], isDigit c = true := List.forall_mem_singleton.mpr (by decide +kernel)
  have number : Decimal.DecimalText ['+', '١', '.', '٥'] ⟨false, 15, 1⟩ :=
    .written .plus (.pointed (List.cons_ne_nil _ _) one five)
  have form : SizeText " +١.٥ ".toList ⟨false, 15, 1⟩ [] :=
    .written space number space (.inl rfl) fun _ member => nomatch member
  have value : Decimal.value ⟨false, 15, 1⟩ = 3 / 2 := by
    norm_num [Decimal.value]
  rw [(parse_verdict " +١.٥ ").2.2.2.2.2.1 _ form (by rw [value]; norm_num), value]
  norm_num

/-! ### Large products -/

/-- A power of ten in thousands. -/
def thousands (zeros : Nat) : String :=
  String.ofList ('1' :: List.replicate zeros '0' ++ ['k'])

theorem thousands_form (zeros : Nat) :
    SizeText (thousands zeros).toList ⟨false, 10 ^ zeros, 0⟩ ['k'] := by
  have unit : UnitText ['k'] := (unit?_isSome_iff _).mp (by decide +kernel)
  have digits : ∀ c ∈ '1' :: List.replicate zeros '0', isDigit c = true := by
    rw [List.forall_mem_cons]
    refine ⟨by decide +kernel, fun c member => ?_⟩
    rw [List.eq_of_mem_replicate member]
    decide +kernel
  have one : (digitValue? '1').getD 0 = 1 := by decide +kernel
  have value : digitsValue ('1' :: List.replicate zeros '0') = 10 ^ zeros := by
    have none := digitsValue_zeros zeros []
    rw [List.append_nil] at none
    rw [digitsValue_cons, one, none, List.length_replicate, Nat.one_mul]
    rfl
  have form := SizeText.of_digits (List.cons_ne_nil _ _) digits (.inr unit)
  rw [value] at form
  rwa [thousands, String.toList_ofList]

theorem thousands_nonnegative (zeros : Nat) : ¬Decimal.value ⟨false, 10 ^ zeros, 0⟩ < 0 := by
  simp [Decimal.value]

/-- The power of ten that has no exponent overflows. -/
theorem thousands_overflows {zeros : Nat} (large : Decimal.maxExponent + 1 ≤ zeros + 3) :
    Overflows ⟨false, 10 ^ zeros, 0⟩ ['k'] := by
  have found : unit? (String.ofList ['k']) = some ⟨"k", 1000, 1⟩ := by decide +kernel
  have product : 10 ^ zeros * Unit.multiplier ⟨"k", 1000, 1⟩ = 1 * 10 ^ (zeros + 3) := by
    rw [Nat.one_mul, Nat.pow_add]
    rfl
  rw [overflows_iff (thousands_nonnegative zeros) found, Decimal.overflows_iff_scaleDown,
    Decimal.scaleDown, Decimal.product, product, roundSignificant_mul_pow]
  have one : roundSignificant Decimal.productDigits 1 = 1 := by decide +kernel
  rw [one, Nat.one_mul, Nat.pow_eq, Nat.pow_zero, Nat.div_one]
  exact Nat.pow_le_pow_right (by decide) large

theorem parse_thousands (zeros : Nat) (large : Decimal.maxExponent + 1 ≤ zeros + 3) :
    Accepted (thousands zeros) ∧ parse (thousands zeros) = .error .overflow := by
  have form := thousands_form zeros
  have nonnegative := thousands_nonnegative zeros
  exact ⟨⟨_, _, form, nonnegative⟩, (form.parse_eq nonnegative).2 (thousands_overflows large)⟩

/-- A size in the form that sizes have is not read if its product is too large. -/
theorem parse_thousands_overflow :
    Accepted (thousands 999997) ∧ parse (thousands 999997) = .error .overflow :=
  parse_thousands 999997 (by decide)

end ScanSetup.Size
