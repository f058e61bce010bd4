import ScanSetup.Proofs.Configuration.Reading
import ScanSetup.Proofs.Number.Nearest
import ScanSetup.Proofs.Size.Grammar

set_option autoImplicit false

namespace ScanSetup.Clamp

open Text Number

/-! ### Fractions -/

def percentSign : Bool → List Char
  | true => ['%']
  | false => []

/-- White space, a number, and nothing behind it or one percent sign. -/
inductive FactorText : List Char → Decimal → Bool → Prop
  | written {front text : List Char} {d : Decimal} {percent : Bool}
      (front_blank : ∀ c ∈ front, isBlank c = true) (number : Decimal.DecimalText text d) :
      FactorText (front ++ (text ++ percentSign percent)) d percent

/-- The double nearest to a number, divided by a hundred if a percent sign follows. -/
inductive Factor (d : Decimal) : Bool → Binary64 → Prop
  | number {x : Binary64} (nearest : Binary64.Nearest |d.value| d.negative x) : Factor d false x
  | hundredth {x y : Binary64} (nearest : Binary64.Nearest |d.value| d.negative x)
      (quotient : Binary64.Quotient 100 x y) : Factor d true y

def factor (d : Decimal) (percent : Bool) : Binary64 :=
  if percent then (Binary64.ofDecimal d).divNat 100 else Binary64.ofDecimal d

variable {spec : String} {cs : List Char} {d : Decimal} {percent : Bool} {ratio : Binary64}
variable {clamp : Clamp}

theorem percentSign_head (percent : Bool) :
    ∀ c ∈ (percentSign percent).head?, isDigit c = false ∧ c ≠ '.' := by
  cases percent with
  | true =>
    rintro _ ⟨⟩
    decide +kernel
  | false => simp [percentSign]

theorem factor_iff : Factor d percent ratio ↔ factor d percent = ratio := by
  have number := Binary64.ofDecimal_nearest d
  have hundredth := Binary64.divNat_quotient number.ne_nan (by decide : 0 < 100)
  unfold factor
  generalize Binary64.ofDecimal d = x at number hundredth ⊢
  generalize x.divNat 100 = y at hundredth ⊢
  cases percent with
  | false =>
    simp only [Bool.false_eq_true, ↓reduceIte]
    constructor
    · rintro ⟨nearest⟩
      exact number.unique nearest
    · rintro rfl
      exact .number number
  | true =>
    simp only [↓reduceIte]
    constructor
    · rintro (_ | ⟨nearest, quotient⟩)
      rw [nearest.unique number] at quotient
      exact hundredth.unique quotient
    · rintro rfl
      exact .hundredth number hundredth

theorem factorText_iff :
    FactorText cs d percent ↔
      Decimal.scan? (cs.dropWhile isBlank) = some (d, percentSign percent) := by
  constructor
  · rintro ⟨front_blank, number⟩
    rw [(span_append front_blank (number.head?_not_blank _)).2]
    exact number.scan?_eq (percentSign_head percent)
  · intro read
    obtain ⟨text, number, split⟩ := Decimal.scan?_sound read
    have front_blank : ∀ c ∈ cs.takeWhile isBlank, isBlank c = true :=
      fun c => List.mem_takeWhile_imp
    have form : FactorText (cs.takeWhile isBlank ++ (text ++ percentSign percent)) d percent :=
      .written front_blank number
    rwa [split, List.takeWhile_append_dropWhile] at form

theorem checkFactor_eq_ok_iff {factor : Binary64} :
    checkFactor factor = .ok ratio ↔ factor = ratio ∧ ratio.isRatio = true := by
  unfold checkFactor
  split
  · rename_i inside
    simp only [Except.ok.injEq]
    constructor
    · rintro rfl
      exact ⟨rfl, inside⟩
    · exact And.left
  · rename_i outside
    simp only [reduceCtorEq, false_iff]
    rintro ⟨rfl, inside⟩
    exact outside inside

theorem parseFactor_of_text (form : FactorText spec.toList d percent) :
    parseFactor spec = checkFactor (factor d percent) := by
  rw [factorText_iff] at form
  cases percent with
  | true =>
    rw [percentSign] at form
    simp only [parseFactor, form, factor, ↓reduceIte]
  | false =>
    rw [percentSign] at form
    simp only [parseFactor, form, factor, Bool.false_eq_true, ↓reduceIte]

theorem parseFactor_of_not_text (other : ¬∃ d percent, FactorText spec.toList d percent) :
    ∃ rest, parseFactor spec = .error (.badFactor spec rest) := by
  simp only [factorText_iff] at other
  unfold parseFactor
  split
  · exact ⟨spec, rfl⟩
  · rename_i number rest read
    split
    · exact absurd ⟨number, false, read⟩ other
    · exact absurd ⟨number, true, read⟩ other
    · exact ⟨_, rfl⟩

theorem parseFactor_eq_ok_iff :
    parseFactor spec = .ok ratio ↔
      ∃ d percent, FactorText spec.toList d percent ∧ factor d percent = ratio ∧
        ratio.isRatio = true := by
  constructor
  · intro read
    by_cases text : ∃ d percent, FactorText spec.toList d percent
    · obtain ⟨d, percent, form⟩ := text
      rw [parseFactor_of_text form, checkFactor_eq_ok_iff] at read
      exact ⟨d, percent, form, read⟩
    · obtain ⟨rest, rejected⟩ := parseFactor_of_not_text text
      rw [rejected] at read
      cases read
  · rintro ⟨d, percent, form, checked⟩
    rw [parseFactor_of_text form]
    exact checkFactor_eq_ok_iff.mpr checked

/-! ### Boundaries -/

/-- The boundary passes the check of its own kind, made from its only field. -/
def Admitted : Clamp → Prop
  | .absolute offset =>
    ofFields Value.readAbsolute [("offset", .integer offset)] = .ok (.absolute offset)
  | .fractional ratio =>
    ofFields Value.readFractional [("ratio", .real ratio)] = .ok (.fractional ratio)

theorem admitted_absolute (offset : Int) : Admitted (.absolute offset) ↔ 0 ≤ offset := by
  have field : (Value.record [("offset", .integer offset)]).field? "offset" =
      some (.integer offset) := rfl
  by_cases valid : 0 ≤ offset
  · simp [Admitted, ofFields, Value.readAbsolute, Value.required, field,
      Value.readOffset_valid _ valid, Reading.map, valid]
  · simp [Admitted, ofFields, Value.readAbsolute, Value.required, field, Value.readOffset,
      Value.readInteger, Reading.map, Reading.pure, Reading.broken, valid, not_le.mp valid]

theorem admitted_fractional (ratio : Binary64) :
    Admitted (.fractional ratio) ↔ ratio.isRatio = true := by
  have field : (Value.record [("ratio", .real ratio)]).field? "ratio" = some (.real ratio) := rfl
  cases upper : ratio.le Binary64.unit <;> cases lower : Binary64.zero.le ratio <;>
    simp [Admitted, ofFields, Value.readFractional, Value.required, field, Value.readRatio,
      Value.readReal, Reading.map, Reading.pure, Reading.broken, Binary64.isRatio, upper, lower]

/-- The text has a point, or a percent sign at its end. -/
def Fractional (spec : String) : Prop := '.' ∈ spec.toList ∨ spec.toList.getLast? = some '%'

theorem isFractionalSpec_iff : isFractionalSpec spec = true ↔ Fractional spec := by
  simp [isFractionalSpec, Fractional]

theorem parse_of_fractional (fractional : Fractional spec) :
    parse spec = ((parseFactor spec).map .fractional).mapError .rejected := by
  rw [parse, if_pos (isFractionalSpec_iff.mpr fractional)]
  cases parseFactor spec <;> rfl

theorem parse_of_size {size : Nat} (whole : ¬Fractional spec)
    (read : Size.parse spec = .ok size) : parse spec = .ok (.absolute size) := by
  rw [parse, if_neg (mt isFractionalSpec_iff.mp whole), read]

theorem parse_of_not_size {e : Size.Error} (whole : ¬Fractional spec)
    (failed : Size.parse spec = .error (.rejected e)) :
    parse spec = .error (.rejected (.badOffset spec e.fault)) := by
  rw [parse, if_neg (mt isFractionalSpec_iff.mp whole), failed]

theorem parse_of_overflow (whole : ¬Fractional spec)
    (failed : Size.parse spec = .error .overflow) : parse spec = .error .overflow := by
  rw [parse, if_neg (mt isFractionalSpec_iff.mp whole), failed]

/-- A boundary is read from a text with a point or a percent sign at its end exactly if the text is
white space, a number and at most one percent sign, and its factor lies between zero and one. -/
theorem parse_fractional (fractional : Fractional spec) :
    parse spec = .ok clamp ↔
      ∃ d percent ratio, FactorText spec.toList d percent ∧ Factor d percent ratio ∧
        (∃ v, ratio.value? = some v ∧ 0 ≤ v ∧ v ≤ 1) ∧ clamp = .fractional ratio := by
  simp only [parse_of_fractional fractional, ← Binary64.isRatio_iff_value, factor_iff]
  constructor
  · intro read
    cases factored : parseFactor spec with
    | error e =>
      rw [factored] at read
      cases read
    | ok ratio =>
      rw [factored] at read
      cases read
      obtain ⟨d, percent, form, same, inside⟩ := parseFactor_eq_ok_iff.mp factored
      exact ⟨d, percent, ratio, form, same, inside, rfl⟩
  · rintro ⟨d, percent, ratio, form, same, inside, rfl⟩
    rw [parseFactor_eq_ok_iff.mpr ⟨d, percent, form, same, inside⟩]
    rfl

theorem parse_whole (whole : ¬Fractional spec) :
    parse spec = .ok clamp ↔ ∃ size, Size.parse spec = .ok size ∧ clamp = .absolute size := by
  cases read : Size.parse spec with
  | error unread =>
    cases unread with
    | rejected e => simp [parse_of_not_size whole read]
    | overflow => simp [parse_of_overflow whole read]
  | ok size => simp [parse_of_size whole read, eq_comm]

/-- A fraction never overflows, since it is not multiplied. -/
theorem parse_overflow_iff :
    parse spec = .error .overflow ↔ ¬Fractional spec ∧ Size.TooLarge spec := by
  rw [← Size.parse_eq_overflow_iff]
  by_cases fractional : Fractional spec
  · rw [parse_of_fractional fractional]
    refine iff_of_false ?_ fun whole => whole.1 fractional
    cases parseFactor spec <;> exact nofun
  · rw [and_iff_right fractional]
    cases read : Size.parse spec with
    | error unread =>
      cases unread with
      | rejected e => simp [parse_of_not_size fractional read]
      | overflow => simp [parse_of_overflow fractional read]
    | ok size => simp [parse_of_size fractional read]

theorem admitted_of_parse (read : parse spec = .ok clamp) : clamp.Admitted := by
  by_cases fractional : Fractional spec
  · obtain ⟨d, percent, ratio, -, -, inside, rfl⟩ := (parse_fractional fractional).mp read
    exact (admitted_fractional _).mpr ((Binary64.isRatio_iff_value _).mpr inside)
  · obtain ⟨size, -, rfl⟩ := (parse_whole fractional).mp read
    exact (admitted_absolute _).mpr (Int.natCast_nonneg size)

theorem isFractional_of_parse (read : parse spec = .ok clamp) :
    (∃ ratio, clamp = .fractional ratio) ↔ Fractional spec := by
  by_cases fractional : Fractional spec
  · obtain ⟨d, percent, ratio, -, -, -, rfl⟩ := (parse_fractional fractional).mp read
    exact iff_of_true ⟨_, rfl⟩ fractional
  · obtain ⟨size, -, rfl⟩ := (parse_whole fractional).mp read
    exact iff_of_false (by simp) fractional

/-- Each text is a boundary that passes the check of its own kind, or rejected as a boundary, or a
size whose product overflows. With a point, or a percent sign at its end, it can only be a fraction:
white space, a number, nothing more than one percent sign, and a factor from zero to one, minus zero
included. Any other text is the offset that its size is, and is rejected under itself and for the
reason for which it is no size. -/
theorem parse_boundary (spec : String) :
    ((∃ clamp, parse spec = .ok clamp ∧ clamp.Admitted) ∨ (∃ e, parse spec = .error (.rejected e)) ∨
      parse spec = .error .overflow) ∧
    (parse spec = .error .overflow ↔ ¬Fractional spec ∧ Size.TooLarge spec) ∧
    (∀ clamp, parse spec = .ok clamp → ((∃ ratio, clamp = .fractional ratio) ↔ Fractional spec)) ∧
    (Fractional spec → ∀ clamp, parse spec = .ok clamp ↔
      ∃ d percent ratio, FactorText spec.toList d percent ∧ Factor d percent ratio ∧
        (∃ v, ratio.value? = some v ∧ 0 ≤ v ∧ v ≤ 1) ∧ clamp = .fractional ratio) ∧
    (¬Fractional spec →
      (∀ clamp, parse spec = .ok clamp ↔
        ∃ size, Size.parse spec = .ok size ∧ clamp = .absolute size) ∧
      ∀ e, Size.parse spec = .error (.rejected e) →
        parse spec = .error (.rejected (.badOffset spec e.fault)) ∧
          (Error.badOffset spec e.fault).message =
            "Unable to parse offset \"" ++ spec ++ "\": " ++ e.message) := by
  refine ⟨?_, parse_overflow_iff, fun _ => isFractional_of_parse,
    fun fractional _ => parse_fractional fractional,
    fun whole =>
      ⟨fun _ => parse_whole whole, fun _ failed => ⟨parse_of_not_size whole failed, rfl⟩⟩⟩
  cases read : parse spec with
  | ok clamp => exact .inl ⟨clamp, rfl, admitted_of_parse read⟩
  | error unread =>
    cases unread with
    | rejected e => exact .inr (.inl ⟨e, rfl⟩)
    | overflow => exact .inr (.inr rfl)

/-- The sign of a zero is kept, and a number that rounds to one is a fraction. -/
example :
    parse "\x1f-.0%" = .ok (.fractional (.finite true 0)) ∧
      parse "1.00000000000000005" = .ok fileEnd := by
  decide +kernel

theorem not_fractional_thousands (zeros : Nat) : ¬Fractional (Size.thousands zeros) := by
  have last : ('1' :: List.replicate zeros '0' ++ ['k']).getLast? = some 'k' :=
    List.getLast?_concat
  simp only [Fractional, Size.thousands, String.toList_ofList, last]
  simp [List.mem_replicate]

/-- An offset whose product overflows is not rejected as a boundary. -/
theorem parse_offset_overflow :
    ¬Fractional (Size.thousands 999997) ∧ Size.Accepted (Size.thousands 999997) ∧
      parse (Size.thousands 999997) = .error .overflow := by
  obtain ⟨accepted, large⟩ := Size.parse_thousands 999997 (by decide)
  have whole := not_fractional_thousands 999997
  exact ⟨whole, accepted, parse_of_overflow whole large⟩

end ScanSetup.Clamp
