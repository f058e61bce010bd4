import ScanSetup.Number.Decimal
import ScanSetup.Proofs.Number.Rounding
import ScanSetup.Proofs.Text.Digit
import Mathlib.Data.Rat.Floor
import Mathlib.Tactic.FieldSimp
import Mathlib.Tactic.Linarith
import Mathlib.Tactic.Positivity

set_option autoImplicit false

namespace ScanSetup.Number.Decimal

open Text

/-! ### Written numbers -/

inductive SignText : List Char → Bool → Prop
  | absent : SignText [] false
  | plus : SignText ['+'] false
  | minus : SignText ['-'] true

/-- A number without a sign, by its digits in front of the point and behind it: digits with an
optional point and optional further digits, or a point followed by digits. -/
inductive NumberText : List Char → List Char → List Char → Prop
  | whole {whole : List Char} (some : whole ≠ []) (digits : ∀ c ∈ whole, isDigit c = true) :
      NumberText whole [] whole
  | pointed {whole fraction : List Char} (some : whole ≠ [])
      (digits : ∀ c ∈ whole, isDigit c = true) (more : ∀ c ∈ fraction, isDigit c = true) :
      NumberText whole fraction (whole ++ '.' :: fraction)
  | fraction {fraction : List Char} (some : fraction ≠ [])
      (digits : ∀ c ∈ fraction, isDigit c = true) : NumberText [] fraction ('.' :: fraction)

inductive DecimalText : List Char → Decimal → Prop
  | written {sign number whole fraction : List Char} {negative : Bool}
      (sign_text : SignText sign negative) (number_text : NumberText whole fraction number) :
      DecimalText (sign ++ number)
        ⟨negative, digitsValue (whole ++ fraction), fraction.length⟩

/-- A number starts the text `cs`, and no longer text at the start of `cs` is a number. -/
def Longest (cs : List Char) (d : Decimal) (rest : List Char) : Prop :=
  ∃ text, DecimalText text d ∧ text ++ rest = cs ∧
    ∀ other e left, DecimalText other e → other ++ left = cs → other.length ≤ text.length

/-- What follows a number does not continue it. -/
def Ends (number rest : List Char) : Prop :=
  ∀ c ∈ rest.head?, isDigit c = false ∧ (c = '.' → '.' ∈ number)

variable {sign number whole fraction rest cs text : List Char} {negative : Bool} {d : Decimal}

theorem isDigit_point : isDigit '.' = false := by decide +kernel

theorem span_point (digits : ∀ c ∈ whole, isDigit c = true) (rest : List Char) :
    (whole ++ '.' :: rest).takeWhile isDigit = whole ∧
      (whole ++ '.' :: rest).dropWhile isDigit = '.' :: rest :=
  span_append digits fun c first => by
    cases first
    exact isDigit_point

theorem NumberText.head (form : NumberText whole fraction number) :
    ∃ c tail, number = c :: tail ∧ (isDigit c = true ∨ c = '.') := by
  cases form with
  | whole some digits =>
    obtain ⟨c, tail, rfl⟩ := List.exists_cons_of_ne_nil some
    exact ⟨c, tail, rfl, .inl (digits c List.mem_cons_self)⟩
  | @pointed _ fraction some digits more =>
    obtain ⟨c, tail, rfl⟩ := List.exists_cons_of_ne_nil some
    exact ⟨c, tail ++ '.' :: fraction, rfl, .inl (digits c List.mem_cons_self)⟩
  | fraction some digits => exact ⟨'.', fraction, rfl, .inr rfl⟩

theorem takeSign_append (sign_text : SignText sign negative)
    (form : NumberText whole fraction number) (rest : List Char) :
    takeSign (sign ++ (number ++ rest)) = (negative, number ++ rest) := by
  cases sign_text with
  | absent =>
    obtain ⟨c, tail, rfl, first⟩ := form.head
    have plus : c ≠ '+' := by
      rintro rfl
      exact absurd first (by decide +kernel)
    have minus : c ≠ '-' := by
      rintro rfl
      exact absurd first (by decide +kernel)
    simp [takeSign, plus, minus]
  | plus => rfl
  | minus => rfl

theorem DecimalText.head?_not_blank (form : DecimalText text d) (rest : List Char) :
    ∀ c ∈ (text ++ rest).head?, isBlank c = false := by
  cases form with
  | written sign_text number_text =>
    rintro c first
    cases sign_text with
    | absent =>
      obtain ⟨_, tail, rfl, digit | point⟩ := number_text.head
      · cases first
        exact isBlank_eq_false digit
      · cases first
        subst point
        decide +kernel
    | plus =>
      cases first
      decide +kernel
    | minus =>
      cases first
      decide +kernel

theorem takeSign_spec (cs : List Char) :
    ∃ sign, SignText sign (takeSign cs).1 ∧ sign ++ (takeSign cs).2 = cs := by
  unfold takeSign
  split
  · exact ⟨['+'], .plus, rfl⟩
  · exact ⟨['-'], .minus, rfl⟩
  · exact ⟨[], .absent, rfl⟩

/-- A number is read as far as it is written, if nothing continues it. -/
theorem scan?_append (sign_text : SignText sign negative)
    (form : NumberText whole fraction number) (ends : Ends number rest) :
    scan? (sign ++ (number ++ rest)) =
      some (⟨negative, digitsValue (whole ++ fraction), fraction.length⟩, rest) := by
  have stop : ∀ c ∈ rest.head?, isDigit c = false := fun c first => (ends c first).1
  unfold scan?
  rw [takeSign_append sign_text form]
  cases form with
  | whole some digits =>
    obtain ⟨taken, left⟩ := span_append digits stop
    have no_point (tail : List Char) : rest ≠ '.' :: tail := by
      rintro rfl
      have inside := digits '.' ((ends '.' rfl).2 rfl)
      rw [isDigit_point] at inside
      cases inside
    simp only [taken, left, List.isEmpty_eq_false_iff.mpr some, Bool.false_eq_true, ↓reduceIte,
      List.append_nil, List.length_nil]
  | pointed some digits more =>
    rw [List.append_assoc, List.cons_append]
    obtain ⟨taken, left⟩ := span_point digits (fraction ++ rest)
    obtain ⟨after, leaves⟩ := span_append more stop
    simp only [taken, left, after, leaves]
    simp [some]
  | fraction some digits =>
    have none : ∀ c ∈ ([] : List Char), isDigit c = true := by simp
    obtain ⟨taken, left⟩ := span_point none (fraction ++ rest)
    obtain ⟨after, leaves⟩ := span_append digits stop
    rw [List.nil_append] at taken left
    rw [List.cons_append]
    simp only [taken, left, after, leaves]
    simp [some]

theorem scan?_sound (read : scan? cs = some (d, rest)) :
    ∃ text, DecimalText text d ∧ text ++ rest = cs := by
  obtain ⟨sign, sign_text, unsigned⟩ := takeSign_spec cs
  unfold scan? at read
  dsimp only at read
  generalize takeSign cs = parts at sign_text unsigned read
  have all (cs : List Char) : ∀ c ∈ cs.takeWhile isDigit, isDigit c = true :=
    fun c => List.mem_takeWhile_imp
  have halves := List.takeWhile_append_dropWhile (p := isDigit) (l := parts.2)
  split at read
  · rename_i tail point
    rw [point] at halves
    split at read
    · cases read
    · rename_i some
      cases read
      have rest_halves := List.takeWhile_append_dropWhile (p := isDigit) (l := tail)
      have form : NumberText (parts.2.takeWhile isDigit) (tail.takeWhile isDigit)
          (parts.2.takeWhile isDigit ++ '.' :: tail.takeWhile isDigit) := by
        by_cases absent : parts.2.takeWhile isDigit = []
        · rw [absent]
          refine .fraction ?_ (all tail)
          intro none
          simp [absent, none] at some
        · exact .pointed absent (all _) (all tail)
      refine ⟨_, .written sign_text form, ?_⟩
      rw [List.append_assoc, List.append_assoc, List.cons_append, rest_halves, halves, unsigned]
  · split at read
    · cases read
    · rename_i some
      cases read
      have digits : parts.2.takeWhile isDigit ≠ [] := by simpa using some
      have form := DecimalText.written sign_text (.whole digits (all parts.2))
      rw [List.append_nil] at form
      refine ⟨_, form, ?_⟩
      rw [List.append_assoc, halves, unsigned]

theorem digits_append_takeWhile (digits : ∀ c ∈ cs, isDigit c = true) (rest : List Char) :
    ∀ c ∈ cs ++ rest.takeWhile isDigit, isDigit c = true := by
  intro c member
  rcases List.mem_append.mp member with inside | behind
  · exact digits c inside
  · exact List.mem_takeWhile_imp behind

/-- A number with a point grows by the digits behind it. -/
theorem NumberText.extend_digits (form : NumberText whole fraction number)
    (point : '.' ∈ number) (rest : List Char) :
    NumberText whole (fraction ++ rest.takeWhile isDigit) (number ++ rest.takeWhile isDigit) := by
  cases form with
  | whole some digits =>
    have inside := digits '.' point
    rw [isDigit_point] at inside
    cases inside
  | pointed some digits more =>
    rw [List.append_assoc, List.cons_append]
    exact .pointed some digits (digits_append_takeWhile more rest)
  | fraction some digits =>
    rw [List.cons_append]
    exact .fraction (by simp [some]) (digits_append_takeWhile digits rest)

/-- A number at the start of a text grows until nothing continues it. -/
theorem NumberText.extend (form : NumberText whole fraction number) (rest : List Char) :
    ∃ more left longWhole longFraction, more ++ left = rest ∧
      NumberText longWhole longFraction (number ++ more) ∧ Ends (number ++ more) left := by
  have ends_pointed {long : List Char} (point : '.' ∈ long) (cs : List Char) :
      Ends long (cs.dropWhile isDigit) :=
    fun c first => ⟨head?_dropWhile_eq_false isDigit cs c first, fun _ => point⟩
  have halves := List.takeWhile_append_dropWhile (p := isDigit) (l := rest)
  by_cases point : '.' ∈ number
  · exact ⟨_, _, _, _, halves, form.extend_digits point rest,
      ends_pointed (List.mem_append_left _ point) rest⟩
  cases form with
  | whole some digits =>
    have long := digits_append_takeWhile digits rest
    have long_some : number ++ rest.takeWhile isDigit ≠ [] := by simp [some]
    cases behind : rest.dropWhile isDigit with
    | nil =>
      rw [behind] at halves
      exact ⟨_, [], _, _, halves, .whole long_some long, by simp [Ends]⟩
    | cons c tail =>
      have stop : isDigit c = false :=
        head?_dropWhile_eq_false isDigit rest c (by rw [behind]; rfl)
      rw [behind] at halves
      by_cases same : c = '.'
      · -- The point behind the digits belongs to the number, and so do the digits behind it.
        subst same
        have more : ∀ c ∈ tail.takeWhile isDigit, isDigit c = true :=
          fun c => List.mem_takeWhile_imp
        have pointed := NumberText.pointed long_some long more
        rw [List.append_assoc] at pointed
        refine ⟨_, tail.dropWhile isDigit, _, _, ?_, pointed, ends_pointed (by simp) tail⟩
        rw [List.append_assoc, List.cons_append, List.takeWhile_append_dropWhile, halves]
      · refine ⟨_, _, _, _, halves, .whole long_some long, ?_⟩
        rintro _ ⟨⟩
        exact ⟨stop, fun equal => absurd equal same⟩
  | pointed => exact absurd (by simp) point
  | fraction => exact absurd (by simp) point

/-- Whatever number starts a text, one that is as long is read. -/
theorem scan?_longest (form : DecimalText text d) (rest : List Char) :
    ∃ e left, scan? (text ++ rest) = some (e, left) ∧ left.length ≤ rest.length := by
  cases form with
  | written sign_text number_text =>
    obtain ⟨more, left, _, _, rfl, grown, ends⟩ := number_text.extend rest
    have read := scan?_append sign_text grown ends
    rw [List.append_assoc] at read ⊢
    exact ⟨_, left, read, by simp⟩

theorem DecimalText.scan?_eq (form : DecimalText text d)
    (stop : ∀ c ∈ rest.head?, isDigit c = false ∧ c ≠ '.') :
    scan? (text ++ rest) = some (d, rest) := by
  cases form with
  | written sign_text number_text =>
    rw [List.append_assoc]
    refine scan?_append sign_text number_text fun c first => ?_
    obtain ⟨digit, point⟩ := stop c first
    exact ⟨digit, fun same => absurd same point⟩

theorem DecimalText.unique {e : Decimal} (first : DecimalText text d)
    (second : DecimalText text e) : d = e := by
  have one : scan? (text ++ []) = some (d, []) := first.scan?_eq (by simp)
  rw [second.scan?_eq (by simp)] at one
  exact (congrArg Prod.fst (Option.some.inj one)).symm

theorem scan?_eq_some_iff : scan? cs = some (d, rest) ↔ Longest cs d rest := by
  constructor
  · intro read
    obtain ⟨text, form, split⟩ := scan?_sound read
    refine ⟨text, form, split, fun other e left other_form other_split => ?_⟩
    obtain ⟨e, shorter, other_read, less⟩ := scan?_longest other_form left
    rw [other_split, read] at other_read
    cases other_read
    have lengths := congrArg List.length (split.trans other_split.symm)
    rw [List.length_append, List.length_append] at lengths
    omega
  · rintro ⟨text, form, rfl, most⟩
    obtain ⟨e, left, read, less⟩ := scan?_longest form rest
    obtain ⟨other, other_form, split⟩ := scan?_sound read
    have longer := most other e left other_form split
    have lengths := congrArg List.length split
    rw [List.length_append, List.length_append] at lengths
    obtain ⟨same, rfl⟩ := List.append_inj split (by omega)
    subst same
    rw [read, other_form.unique form]

theorem scan?_eq_none_iff :
    scan? cs = none ↔ ¬∃ text d rest, DecimalText text d ∧ text ++ rest = cs := by
  constructor
  · rintro none ⟨text, d, rest, form, rfl⟩
    obtain ⟨e, left, read, -⟩ := scan?_longest form rest
    rw [none] at read
    cases read
  · intro none
    refine Option.eq_none_iff_forall_ne_some.mpr fun found read => none ?_
    obtain ⟨text, form, split⟩ := scan?_sound read
    exact ⟨text, found.1, found.2, form, split⟩

/-! ### Values -/

def value (d : Decimal) : ℚ := (if d.negative then -1 else 1) * (d.mantissa / 10 ^ d.places)

theorem isNegative_iff (d : Decimal) : d.isNegative = true ↔ d.value < 0 := by
  have power : (0 : ℚ) < 10 ^ d.places := by positivity
  have magnitude : (0 : ℚ) ≤ d.mantissa / 10 ^ d.places := by positivity
  have positive : (0 : ℚ) < d.mantissa / 10 ^ d.places ↔ d.mantissa ≠ 0 := by
    rw [div_pos_iff_of_pos_right power, Nat.cast_pos, Nat.pos_iff_ne_zero]
  unfold isNegative value
  cases d.negative with
  | false => simp [magnitude]
  | true => simp [positive]

theorem roundDiv_up_eq_floor (num : Nat) {den : Nat} (positive : 0 < den) :
    roundDiv .up num den = ⌊(num : ℚ) / den + 1 / 2⌋₊ := by
  have nonzero : (den : ℚ) ≠ 0 := Nat.cast_ne_zero.mpr (Nat.ne_of_gt positive)
  have doubled : (num : ℚ) / den + 1 / 2 = ((2 * num + den : Nat) : ℚ) / ((2 * den : Nat) : ℚ) := by
    push_cast
    field_simp
  have scale : (0 : ℚ) < (2 * den : Nat) := by positivity
  have least := roundDiv_mul_le .up num positive
  have most := lt_roundDiv_up_mul num positive
  have bounds : roundDiv .up num den * (2 * den) ≤ 2 * num + den ∧
      2 * num + den < (roundDiv .up num den + 1) * (2 * den) := by
    have next := Nat.succ_mul (roundDiv .up num den) den
    rw [Nat.mul_left_comm _ 2, Nat.mul_left_comm _ 2, next]
    omega
  rw [doubled, eq_comm, Nat.floor_eq_iff (by positivity), le_div_iff₀ scale, div_lt_iff₀ scale]
  exact_mod_cast bounds

theorem value_of_nonnegative (d : Decimal) (nonnegative : ¬d.value < 0) :
    d.value = d.mantissa / (10 ^ d.places : Nat) := by
  have absent := mt (isNegative_iff d).mp nonnegative
  unfold isNegative at absent
  unfold value
  rw [Nat.cast_pow, Nat.cast_ofNat]
  cases sign : d.negative with
  | false => simp
  | true =>
    have none : d.mantissa = 0 := by simpa [sign] using absent
    simp [none]

/-- A number that is not negative is rounded to the floor of it and a half. -/
theorem roundHalfUp_eq_floor (d : Decimal) (nonnegative : ¬d.value < 0) :
    d.roundHalfUp = ⌊d.value + 1 / 2⌋₊ := by
  have power : 0 < Nat.pow 10 d.places := Nat.pow_pos (by decide)
  rw [roundHalfUp, roundDiv_up_eq_floor _ power, value_of_nonnegative d nonnegative, Nat.pow_eq]

end ScanSetup.Number.Decimal
