import ScanSetup.Proofs.Size.Grammar
import ScanSetup.Proofs.Text.Split

set_option autoImplicit false

namespace ScanSetup.Size

open Text Number

/-- The sides of a range are the texts around its first dash. Without a dash there is no right
side. -/
def Sides (spec left right : String) : Prop :=
  '-' ∉ left.toList ∧ (spec = left ++ "-" ++ right ∨ spec = left ∧ right = "")

/-- The bound that a side sets. An empty side stands for `default`. -/
def bound (default : Nat) (side : String) : Except (Unread Error) Nat :=
  if side = "" then .ok default else parse side

variable {spec left right side : String} {default least most : Nat} {e : Unread Error}

theorem exists_sides (spec : String) : ∃ left right, Sides spec left right := by
  have joined := join_cut '-' spec.toList
  have absent := not_mem_cut '-' spec.toList
  generalize cut '-' spec.toList = parts at joined absent
  obtain ⟨before, after?⟩ := parts
  refine ⟨String.ofList before, String.ofList (after?.getD []), by simpa using absent, ?_⟩
  cases after? with
  | none => exact .inr ⟨by simpa [← String.toList_inj] using joined.symm, rfl⟩
  | some after => exact .inl (by simpa [← String.toList_inj] using joined.symm)

theorem sides_open (absent : '-' ∉ left.toList) : Sides (left ++ "-") left "" :=
  ⟨absent, .inl (by simp)⟩

theorem parseSide_toList (default : Nat) (side : String) :
    parseSide default side.toList = bound default side := by
  simp only [parseSide, bound, String.ofList_toList, List.isEmpty_iff, String.toList_eq_nil_iff]

theorem cut_of_sides (sides : Sides spec left right) :
    ∃ right?, cut '-' spec.toList = (left.toList, right?) ∧ right?.getD [] = right.toList := by
  obtain ⟨absent, rfl | ⟨rfl, rfl⟩⟩ := sides
  · exact ⟨some right.toList, by simpa using cut_append absent, rfl⟩
  · exact ⟨none, cut_of_not_mem absent, rfl⟩

theorem parseRange_of_sides (sides : Sides spec left right) :
    parseRange spec =
      match bound 0 left with
      | .error e => .error e
      | .ok least =>
        match bound greatest right with
        | .error e => .error e
        | .ok most =>
          if most < least then rejected .rangeInverted spec else .ok (least, most) := by
  obtain ⟨right?, divided, closing⟩ := cut_of_sides sides
  rw [← parseSide_toList, ← parseSide_toList, ← closing, parseRange]
  generalize cut '-' spec.toList = parts at divided
  subst divided
  rfl

theorem parseRange_eq_ok_iff (sides : Sides spec left right) :
    parseRange spec = .ok (least, most) ↔
      bound 0 left = .ok least ∧ bound greatest right = .ok most ∧ least ≤ most := by
  rw [parseRange_of_sides sides]
  cases bound 0 left with
  | error e => simp
  | ok least' =>
    cases bound greatest right with
    | error e => simp
    | ok most' =>
      dsimp only
      split
      · rename_i inverted
        simp only [rejected, reduceCtorEq, Except.ok.injEq, false_iff]
        rintro ⟨rfl, rfl, ordered⟩
        omega
      · rename_i ordered
        simp only [Except.ok.injEq, Prod.mk.injEq]
        constructor
        · rintro ⟨rfl, rfl⟩
          exact ⟨rfl, rfl, not_lt.mp ordered⟩
        · rintro ⟨rfl, rfl, -⟩
          exact ⟨rfl, rfl⟩

theorem parseRange_eq_error_iff (sides : Sides spec left right) :
    parseRange spec = .error e ↔
      bound 0 left = .error e ∨
        (∃ least, bound 0 left = .ok least ∧ bound greatest right = .error e) ∨
        ∃ least most, bound 0 left = .ok least ∧ bound greatest right = .ok most ∧
          most < least ∧ e = .rejected ⟨.rangeInverted, spec⟩ := by
  rw [parseRange_of_sides sides]
  cases bound 0 left with
  | error e => simp
  | ok least' =>
    cases bound greatest right with
    | error e => simp
    | ok most' =>
      dsimp only
      split
      · rename_i inverted
        simp [rejected, inverted, eq_comm]
      · rename_i ordered
        simp [not_lt.mp ordered]

/-- A size is rejected under its own text, and for its own sake. -/
theorem parse_error {own : Error} (failed : parse spec = .error (.rejected own)) :
    own.spec = spec ∧ own.fault ≠ .rangeInverted := by
  have same {fault : Fault} (verdict : parse spec = rejected fault spec)
      (other : fault ≠ .rangeInverted) : own.spec = spec ∧ own.fault ≠ .rangeInverted := by
    rw [verdict] at failed
    cases failed
    exact ⟨rfl, other⟩
  rcases parse_cases spec with
    ⟨-, -, verdict⟩ | ⟨d, rest, -, ⟨-, -, verdict⟩ | ⟨sign, -, form⟩ | ⟨-, -, verdict⟩⟩
  · exact same verdict (by decide)
  · exact same verdict (by decide)
  · by_cases large : Overflows d (trim rest)
    · rw [(form.parse_eq sign).2 large] at failed
      cases failed
    · rw [(form.parse_eq sign).1 large] at failed
      cases failed
  · exact same verdict (by decide)

theorem bound_error {own : Error} (failed : bound default side = .error (.rejected own)) :
    own.spec = side ∧ own.fault ≠ .rangeInverted := by
  unfold bound at failed
  split at failed
  · cases failed
  · exact parse_error failed

/-- The empty text is rejected, so a side that is anything else is not missing. -/
theorem bound_of_parse {verdict : Except (Unread Error) Nat} (read : parse side = verdict)
    (other : verdict ≠ rejected .notANumber "") : bound default side = verdict := by
  have some : side ≠ "" := by
    rintro rfl
    exact other read.symm
  rw [bound, if_neg some, read]

theorem bound_of_ok (read : parse side = .ok least) : bound default side = .ok least :=
  bound_of_parse read (by simp [rejected])

theorem bound_of_overflow (read : parse side = .error .overflow) :
    bound default side = .error .overflow :=
  bound_of_parse read (by simp [rejected])

theorem bound_overflow_iff : bound default side = .error .overflow ↔ TooLarge side := by
  rw [← parse_eq_overflow_iff]
  refine ⟨fun failed => ?_, bound_of_overflow⟩
  unfold bound at failed
  split at failed
  · cases failed
  · exact failed

/-- The right side is only read behind a left one that is a size or missing. -/
theorem parseRange_overflow_iff (sides : Sides spec left right) :
    parseRange spec = .error .overflow ↔
      TooLarge left ∨ (∃ least, bound 0 left = .ok least) ∧ TooLarge right := by
  rw [parseRange_eq_error_iff sides]
  simp only [bound_overflow_iff, reduceCtorEq, and_false, exists_false, or_false,
    exists_and_right]

theorem parseRange_ne_overflow_iff :
    parseRange spec ≠ .error .overflow ↔
      ∀ left right, Sides spec left right →
        ¬TooLarge left ∧ ((∃ least, bound 0 left = .ok least) → ¬TooLarge right) := by
  have sided {left right : String} (sides : Sides spec left right) :
      parseRange spec ≠ .error .overflow ↔
        ¬TooLarge left ∧ ((∃ least, bound 0 left = .ok least) → ¬TooLarge right) := by
    rw [Ne, parseRange_overflow_iff sides, not_or, not_and]
  constructor
  · exact fun fits _ _ sides => (sided sides).mp fits
  · intro fits
    obtain ⟨left, right, sides⟩ := exists_sides spec
    exact (sided sides).mpr (fits left right sides)

theorem parseRange_between (absent : '-' ∉ left.toList) (first : parse left = .ok least)
    (second : parse right = .ok most) (ordered : least ≤ most) :
    parseRange (left ++ "-" ++ right) = .ok (least, most) :=
  (parseRange_eq_ok_iff ⟨absent, .inl rfl⟩).mpr ⟨bound_of_ok first, bound_of_ok second, ordered⟩

theorem parseRange_of_left_overflow (absent : '-' ∉ left.toList)
    (first : parse left = .error .overflow) :
    parseRange (left ++ "-" ++ right) = .error .overflow :=
  (parseRange_eq_error_iff ⟨absent, .inl rfl⟩).mpr (.inl (bound_of_overflow first))

theorem parseRange_of_right_overflow (absent : '-' ∉ left.toList) (first : parse left = .ok least)
    (second : parse right = .error .overflow) :
    parseRange (left ++ "-" ++ right) = .error .overflow :=
  (parseRange_eq_error_iff ⟨absent, .inl rfl⟩).mpr
    (.inr (.inl ⟨least, bound_of_ok first, bound_of_overflow second⟩))

theorem parseRange_open (absent : '-' ∉ left.toList) (read : parse left = .ok least) :
    (∃ e, parseRange (left ++ "-") = .error e) ↔ greatest < least := by
  have missing : bound greatest "" = .ok greatest := rfl
  rw [parseRange_of_sides (sides_open absent), bound_of_ok read, missing]
  dsimp only
  split <;> simp [rejected, *]

/-- A range is decided by the texts around its first dash. If the left one is no size, this is the
error, whatever the right one is; then that of the right one; then the order of the two. Each side
is rejected under its own text and the order under the whole text, so what is read is in order. A
side whose product is too large is not rejected, but nothing is read. Hence two sizes in order are
read back from the range between them, and a range that is open above is rejected exactly if it
starts above `2 ^ 64 - 1`. -/
theorem parseRange_verdict (spec : String) :
    (∃ left right, Sides spec left right) ∧
    ∀ left right, Sides spec left right →
      (∀ least most, parseRange spec = .ok (least, most) ↔
        bound 0 left = .ok least ∧ bound (2 ^ 64 - 1) right = .ok most ∧ least ≤ most) ∧
      (∀ e, parseRange spec = .error e ↔
        bound 0 left = .error e ∨
          (∃ least, bound 0 left = .ok least ∧ bound (2 ^ 64 - 1) right = .error e) ∨
          ∃ least most, bound 0 left = .ok least ∧ bound (2 ^ 64 - 1) right = .ok most ∧
            most < least ∧ e = .rejected ⟨.rangeInverted, spec⟩) ∧
      (∀ default side own, bound default side = .error (.rejected own) →
        own.spec = side ∧ own.fault ≠ .rangeInverted) ∧
      (parseRange spec = .error .overflow ↔
        TooLarge left ∨ (∃ least, bound 0 left = .ok least) ∧ TooLarge right) ∧
      (∀ least most, parse left = .ok least → parse right = .ok most → least ≤ most →
        parseRange spec = .ok (least, most)) ∧
      ∀ least, spec = left ++ "-" → parse left = .ok least →
        ((∃ e, parseRange spec = .error e) ↔ 2 ^ 64 - 1 < least) := by
  refine ⟨exists_sides spec, fun left right sides => ?_⟩
  refine ⟨fun _ _ => parseRange_eq_ok_iff sides, fun _ => parseRange_eq_error_iff sides,
    fun _ _ _ => bound_error, parseRange_overflow_iff sides, ?_, ?_⟩
  · intro least most first second ordered
    exact (parseRange_eq_ok_iff sides).mpr ⟨bound_of_ok first, bound_of_ok second, ordered⟩
  · rintro least rfl read
    exact parseRange_open sides.1 read

/-- The second dash is a sign. The sides are sizes, but not in order. -/
theorem parseRange_verdict_dashes :
    Sides "5k--0" "5k" "-0" ∧
      parseRange "5k--0" = rejected .rangeInverted "5k--0" := by
  have sides : Sides "5k--0" "5k" "-0" := ⟨by decide, .inl rfl⟩
  have first : bound 0 "5k" = .ok 5000 := by decide +kernel
  have second : bound (2 ^ 64 - 1) "-0" = .ok 0 := by decide +kernel
  refine ⟨sides, (((parseRange_verdict "5k--0").2 _ _ sides).2.1 _).mpr (.inr (.inr ?_))⟩
  exact ⟨5000, 0, first, second, by decide, rfl⟩

theorem not_mem_thousands (zeros : Nat) : '-' ∉ (thousands zeros).toList := by
  simp [thousands, List.mem_replicate]

/-- A range that starts with a large product is not rejected as out of order. -/
theorem parseRange_thousands_overflow :
    Sides (thousands 999997 ++ "-") (thousands 999997) "" ∧ Accepted (thousands 999997) ∧
      parseRange (thousands 999997 ++ "-") = .error .overflow := by
  obtain ⟨accepted, large⟩ := parse_thousands 999997 (by decide)
  have sides := sides_open (not_mem_thousands 999997)
  exact ⟨sides, accepted, (parseRange_eq_error_iff sides).mpr (.inl (bound_of_overflow large))⟩

end ScanSetup.Size
