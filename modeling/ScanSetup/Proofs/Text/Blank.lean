import ScanSetup.Text.Character
import Mathlib.Data.List.TakeWhile

set_option autoImplicit false

namespace ScanSetup.Text

theorem span_append {α : Type} {p : α → Bool} {front rest : List α} (all : ∀ c ∈ front, p c = true)
    (stop : ∀ c ∈ rest.head?, p c = false) :
    (front ++ rest).takeWhile p = front ∧ (front ++ rest).dropWhile p = rest := by
  rw [List.takeWhile_append_of_pos all, List.dropWhile_append_of_pos all]
  cases rest with
  | nil => exact ⟨List.append_nil front, rfl⟩
  | cons c rest =>
    have outside : ¬p c = true := Bool.eq_false_iff.mp (stop c rfl)
    rw [List.takeWhile_cons_of_neg outside, List.dropWhile_cons_of_neg outside]
    exact ⟨List.append_nil front, rfl⟩

theorem head?_dropWhile_eq_false {α : Type} (p : α → Bool) (cs : List α) :
    ∀ c ∈ (cs.dropWhile p).head?, p c = false := by
  intro c first
  have outside := List.head?_dropWhile_not p cs
  rw [Option.mem_def.mp first] at outside
  simpa using outside

/-- A text is divided into a row at its start and what follows the row in one way only. -/
theorem span_eq_iff {α : Type} {p : α → Bool} {cs front rest : List α} :
    cs.takeWhile p = front ∧ cs.dropWhile p = rest ↔
      (∀ c ∈ front, p c = true) ∧ (∀ c ∈ rest.head?, p c = false) ∧ front ++ rest = cs := by
  constructor
  · rintro ⟨rfl, rfl⟩
    exact ⟨fun c => List.mem_takeWhile_imp, head?_dropWhile_eq_false p cs,
      List.takeWhile_append_dropWhile⟩
  · rintro ⟨all, stop, rfl⟩
    exact span_append all stop

theorem drop_takeWhile {α : Type} (p : α → Bool) (cs : List α) :
    cs.drop (cs.takeWhile p).length = cs.dropWhile p := by
  have parts : (cs.takeWhile p ++ cs.dropWhile p).drop (cs.takeWhile p).length = cs.dropWhile p :=
    List.drop_left
  rwa [List.takeWhile_append_dropWhile] at parts

theorem dropTrailing_append {α : Type} {p : α → Bool} {front back : List α}
    (stop : ∀ c ∈ front.getLast?, p c = false) (all : ∀ c ∈ back, p c = true) :
    dropTrailing p (front ++ back) = front := by
  have reversed : ∀ c ∈ back.reverse, p c = true := by simpa using all
  have head : ∀ c ∈ front.reverse.head?, p c = false := by simpa using stop
  rw [dropTrailing, List.reverse_append, (span_append reversed head).2, List.reverse_reverse]

variable {c : Char} {front middle back : List Char}

theorem CodeRanges.exists_of_contains {ranges : CodeRanges} {n : Nat}
    (member : ranges.contains n = true) : ∃ range ∈ ranges, range.1 ≤ n ∧ n ≤ range.2 := by
  induction ranges with
  | nil => cases member
  | cons range rest ih =>
    unfold CodeRanges.contains at member
    split at member
    · cases member
    · split at member
      · exact ⟨range, List.mem_cons_self, by omega, by omega⟩
      · obtain ⟨later, inside, bounds⟩ := ih member
        exact ⟨later, List.mem_cons_of_mem _ inside, bounds⟩

theorem ne_of_isBlank {d : Char} (blank : isBlank c = true) (other : isBlank d = false) :
    c ≠ d := by
  rintro rfl
  rw [other] at blank
  cases blank

theorem trim_append (front_blank : ∀ c ∈ front, isBlank c = true)
    (inside : ∀ c ∈ middle, isBlank c = false) (back_blank : ∀ c ∈ back, isBlank c = true) :
    trim (front ++ (middle ++ back)) = middle := by
  rw [trim, List.dropWhile_append_of_pos front_blank]
  cases middle with
  | nil =>
    rw [List.nil_append, List.dropWhile_eq_nil_iff.mpr back_blank]
    rfl
  | cons c rest =>
    have start : (c :: rest ++ back).dropWhile isBlank = c :: rest ++ back :=
      List.dropWhile_cons_of_neg (by simp [inside c List.mem_cons_self])
    rw [start]
    apply dropTrailing_append
    · exact fun d last => inside d (List.mem_of_mem_getLast? last)
    · exact back_blank

/-- Trimming takes away white space only. -/
theorem trim_spec (cs : List Char) :
    ∃ front back, (∀ c ∈ front, isBlank c = true) ∧ (∀ c ∈ back, isBlank c = true) ∧
      front ++ (trim cs ++ back) = cs := by
  refine ⟨cs.takeWhile isBlank, ((cs.dropWhile isBlank).reverse.takeWhile isBlank).reverse,
    fun c => List.mem_takeWhile_imp, ?_, ?_⟩
  · exact fun c member => List.mem_takeWhile_imp (List.mem_reverse.mp member)
  · rw [trim, dropTrailing, ← List.reverse_append, List.takeWhile_append_dropWhile,
      List.reverse_reverse, List.takeWhile_append_dropWhile]

end ScanSetup.Text
