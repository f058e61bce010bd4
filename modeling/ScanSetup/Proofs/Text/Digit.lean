import ScanSetup.Proofs.Text.Blank
import ScanSetup.Text.Character
import Mathlib.Tactic.Ring

set_option autoImplicit false

namespace ScanSetup.Text

variable {c : Char}

/-- A digit stands at most nine places behind the zero of its script. -/
theorem isDigit_iff :
    isDigit c = true ↔ ∃ first ∈ zeros, ∃ value < 10, c.toNat = first + value := by
  simp only [isDigit, digitValue?, Option.isSome_map, List.find?_isSome, Bool.and_eq_true,
    decide_eq_true_eq]
  constructor
  · rintro ⟨first, member, least, most⟩
    exact ⟨first, member, c.toNat - first, by omega, by omega⟩
  · rintro ⟨first, member, value, small, code⟩
    exact ⟨first, member, by omega, by omega⟩

theorem isBlank_eq_false (digit : isDigit c = true) : isBlank c = false := by
  have apart : ∀ first ∈ zeros, ∀ value < 10, blankRanges.contains (first + value) = false := by
    decide +kernel
  obtain ⟨first, member, value, small, code⟩ := isDigit_iff.mp digit
  rw [isBlank, code]
  exact apart first member value small

theorem isDigit_eq_false (blank : isBlank c = true) : isDigit c = false := by
  cases digit : isDigit c with
  | false => rfl
  | true =>
    rw [isBlank_eq_false digit] at blank
    cases blank

theorem digitValue?_of_isDigit (digit : c.isDigit = true) :
    digitValue? c = some (c.toNat - '0'.toNat) := by
  have bounds : 48 ≤ c.toNat ∧ c.toNat ≤ 57 := by
    simpa [Char.isDigit, UInt32.le_iff_toNat_le] using digit
  have first : (decide (48 ≤ c.toNat) && decide (c.toNat < 48 + 10)) = true := by
    simp only [Bool.and_eq_true, decide_eq_true_eq]
    omega
  simp only [digitValue?, zeros, List.find?_cons, first, Option.map_some]
  rfl

theorem isDigit_of_isDigit (digit : c.isDigit = true) : isDigit c = true := by
  rw [isDigit, digitValue?_of_isDigit digit, Option.isSome_some]

/-- A digit that is read goes behind all digits in front of it, wherever the row has been cut. -/
theorem DigitRow.value_push (r : DigitRow) (c : Char) :
    (r.push c).value = 10 * r.value + (digitValue? c).getD 0 := by
  unfold DigitRow.push
  dsimp only
  split
  · simp only [DigitRow.value]
    ring
  · simp only [DigitRow.value]
    ring

theorem digits_foldl (r : DigitRow) (digits : List Char) :
    (digits.foldl DigitRow.push r).value = r.value * 10 ^ digits.length + digitsValue digits := by
  induction digits generalizing r with
  | nil => simp [digitsValue, DigitRow.value]
  | cons c rest ih =>
    have alone : digitsValue (c :: rest) =
        (digitValue? c).getD 0 * 10 ^ rest.length + digitsValue rest := by
      rw [digitsValue, List.foldl_cons, ih, DigitRow.value_push]
      simp [DigitRow.value]
    rw [List.foldl_cons, ih, DigitRow.value_push, alone, List.length_cons]
    ring

theorem digitsValue_cons (c : Char) (rest : List Char) :
    digitsValue (c :: rest) = (digitValue? c).getD 0 * 10 ^ rest.length + digitsValue rest := by
  rw [digitsValue, List.foldl_cons, digits_foldl, DigitRow.value_push]
  simp [DigitRow.value]

/-- Digits in front of others count as many powers of ten more as there are others. -/
theorem digitsValue_append (front back : List Char) :
    digitsValue (front ++ back) = digitsValue front * 10 ^ back.length + digitsValue back := by
  rw [digitsValue, List.foldl_append, digits_foldl]
  rfl

theorem digitValue?_lt {value : Nat} (digit : digitValue? c = some value) : value < 10 := by
  obtain ⟨first, found, same⟩ := Option.map_eq_some_iff.mp digit
  have inside := List.find?_some found
  simp only [Bool.and_eq_true, decide_eq_true_eq] at inside
  omega

theorem digitsValue_lt (digits : List Char) : digitsValue digits < 10 ^ digits.length := by
  induction digits with
  | nil => decide
  | cons c rest ih =>
    have small : (digitValue? c).getD 0 ≤ 9 := by
      cases digit : digitValue? c with
      | none => decide
      | some value => exact Nat.le_of_lt_succ (digitValue?_lt digit)
    have front := Nat.mul_le_mul_right (10 ^ rest.length) small
    rw [digitsValue_cons, List.length_cons, Nat.pow_succ]
    omega

theorem digitsValue_zeros (count : Nat) (digits : List Char) :
    digitsValue (List.replicate count '0' ++ digits) = digitsValue digits := by
  have none : digitsValue (List.replicate count '0') = 0 := by
    induction count with
    | zero => rfl
    | succ count ih =>
      rw [List.replicate_succ', digitsValue_append, ih]
      decide
  rw [digitsValue_append, none, Nat.zero_mul, Nat.zero_add]

theorem isDigit_of_mem_toDigits {n : Nat} (member : c ∈ Nat.toDigits 10 n) : isDigit c = true :=
  isDigit_of_isDigit (Nat.isDigit_of_mem_toDigits (by decide) (by decide) member)

theorem digitsValue_toDigits (n : Nat) : digitsValue (Nat.toDigits 10 n) = n := by
  have ascii : ∀ digits : List Char, (∀ c ∈ digits, c.isDigit = true) → ∀ r : DigitRow,
      (digits.foldl DigitRow.push r).value = Nat.ofDigitChars 10 digits r.value := by
    intro digits all
    induction digits with
    | nil => exact fun r => rfl
    | cons c rest ih =>
      obtain ⟨here, later⟩ := List.forall_mem_cons.mp all
      intro r
      rw [List.foldl_cons, ih later, DigitRow.value_push, Nat.ofDigitChars_cons,
        digitValue?_of_isDigit here, Option.getD_some]
  rw [digitsValue, ascii _ fun c => Nat.isDigit_of_mem_toDigits (by decide) (by decide)]
  exact Nat.ofDigitChars_toDigits (by decide) (by decide)

end ScanSetup.Text
