import ScanSetup.Proofs.Text.Blank
import ScanSetup.Proofs.Text.Quoted
import ScanSetup.Terminal.Highlight

set_option autoImplicit false

namespace ScanSetup.Terminal

open Text

/-! ### Pairs -/

/-- A text on one line between two equal quotes, without such a quote inside. -/
inductive Quotation : List Char → Prop
  | between {quote : Char} {inner : List Char} (mark : IsQuote quote)
      (closed : quote ∉ inner) (line : '\n' ∉ inner) : Quotation (quote :: inner ++ [quote])

/-- The value at the start of a text, and what follows it: a quotation if there is one, and else the
characters up to the next white space. -/
inductive ValueAt : List Char → List Char → List Char → Prop
  | quotation {value rest : List Char} (quoted : Quotation value) :
      ValueAt (value ++ rest) value rest
  | word {value rest : List Char}
      (unquoted : ∀ other left, Quotation other → other ++ left ≠ value ++ rest)
      (some : value ≠ []) (dark : ∀ c ∈ value, isBlank c = false)
      (stop : ∀ c ∈ rest.head?, isBlank c = true) : ValueAt (value ++ rest) value rest

/-- The pair at the start of a text, by its key and its value, and what follows it. -/
inductive PairAt : List Char → List Char → List Char → List Char → Prop
  | pair {key tail value rest : List Char} (some : key ≠ [])
      (letters : ∀ c ∈ key, isKey c = true) (value_at : ValueAt tail value rest) :
      PairAt (key ++ '=' :: tail) key value rest

variable {cs inner word key value rest : List Char} {quote : Char}

theorem closing?_eq_some_iff :
    closing? quote cs = some (inner, rest) ↔
      quote ∉ inner ∧ '\n' ∉ inner ∧ inner ++ quote :: rest = cs := by
  have divided : quote ∉ inner ∧ '\n' ∉ inner ∧ inner ++ quote :: rest = cs ↔
      cs.takeWhile (fun c => c != quote && c != '\n') = inner ∧
        cs.dropWhile (fun c => c != quote && c != '\n') = quote :: rest := by
    rw [span_eq_iff]
    simp [forall_and, and_assoc, List.forall_mem_ne']
  rw [divided]
  simp only [closing?, drop_takeWhile]
  split
  · rename_i c tail behind
    rw [behind]
    by_cases same : c = quote <;> simp [same]
  · rename_i behind
    rw [behind]
    simp

theorem bareWord?_eq_some_iff :
    bareWord? cs = some (word, rest) ↔
      word ≠ [] ∧ (∀ c ∈ word, isBlank c = false) ∧ (∀ c ∈ rest.head?, isBlank c = true) ∧
        word ++ rest = cs := by
  have divided : (∀ c ∈ word, isBlank c = false) ∧ (∀ c ∈ rest.head?, isBlank c = true) ∧
        word ++ rest = cs ↔
      cs.takeWhile (!isBlank ·) = word ∧ cs.dropWhile (!isBlank ·) = rest := by
    simp only [span_eq_iff, Bool.not_eq_true', Bool.not_eq_false']
  rw [divided]
  simp only [bareWord?, drop_takeWhile]
  split
  · rename_i none
    rw [List.isEmpty_iff.mp none]
    constructor
    · rintro ⟨⟩
    · rintro ⟨some, same, -⟩
      exact absurd same.symm some
  · rename_i some
    rw [List.isEmpty_iff] at some
    constructor
    · rintro ⟨⟩
      exact ⟨some, rfl, rfl⟩
    · rintro ⟨-, rfl, rfl⟩
      rfl

theorem value?_quotation (quoted : Quotation value) (rest : List Char) :
    value? (value ++ rest) = some (value, rest) := by
  cases quoted with
  | @between quote inner mark closed line =>
    have found : closing? quote (inner ++ quote :: rest) = some (inner, rest) :=
      closing?_eq_some_iff.mpr ⟨closed, line, rfl⟩
    have quotes : (quote == '\x27' || quote == '\x22') = true := by
      simpa [IsQuote] using mark
    rw [List.append_assoc, List.cons_append, List.singleton_append]
    simp only [value?, quotes, ↓reduceIte, found]

theorem value?_word (unquoted : ∀ other left, Quotation other → other ++ left ≠ cs) :
    value? cs = bareWord? cs := by
  cases cs with
  | nil => rfl
  | cons quote tail =>
    simp only [value?]
    split
    · rename_i mark
      cases found : closing? quote tail with
      | none => rfl
      | some parts =>
        obtain ⟨closed, line, split⟩ := closing?_eq_some_iff.mp found
        refine absurd ?_ (unquoted _ parts.2 (.between (by simpa [IsQuote] using mark) closed line))
        rw [List.append_assoc, List.cons_append, List.singleton_append, split]
    · rfl

theorem value?_eq_some_iff : value? cs = some (value, rest) ↔ ValueAt cs value rest := by
  by_cases quoted : ∃ other left, Quotation other ∧ other ++ left = cs
  · obtain ⟨other, left, quoted, rfl⟩ := quoted
    rw [value?_quotation quoted]
    constructor
    · rintro ⟨⟩
      exact .quotation quoted
    · intro value_at
      generalize whole : other ++ left = cs at value_at
      cases value_at with
      | quotation second =>
        have same := value?_quotation second rest
        rwa [← whole, value?_quotation quoted] at same
      | word unquoted => exact absurd whole (unquoted other left quoted)
  · have unquoted : ∀ other left, Quotation other → other ++ left ≠ cs :=
      fun other left quotation whole => quoted ⟨other, left, quotation, whole⟩
    rw [value?_word unquoted, bareWord?_eq_some_iff]
    constructor
    · rintro ⟨some, dark, stop, rfl⟩
      exact .word unquoted some dark stop
    · intro value_at
      cases value_at with
      | quotation second => exact absurd rfl (unquoted value rest second)
      | word _ some dark stop => exact ⟨some, dark, stop, rfl⟩

theorem isKey_equals : isKey '=' = false := by decide +kernel

theorem pair?_eq_some_iff : pair? cs = some ((key, value), rest) ↔ PairAt cs key value rest := by
  constructor
  · intro read
    simp only [pair?, drop_takeWhile] at read
    have halves := List.takeWhile_append_dropWhile (p := isKey) (l := cs)
    split at read
    · cases read
    · rename_i some
      split at read
      · rename_i tail behind
        obtain ⟨⟨found, left⟩, value_read, same⟩ := Option.map_eq_some_iff.mp read
        cases same
        rw [behind] at halves
        have pair := PairAt.pair (by simpa using some) (fun c => List.mem_takeWhile_imp (p := isKey))
          (value?_eq_some_iff.mp value_read)
        rwa [halves] at pair
      · cases read
  · intro pair
    cases pair with
    | @pair _ tail _ _ some letters value_at =>
      have stop : ∀ c ∈ ('=' :: tail).head?, isKey c = false := by simp [isKey_equals]
      have taken := (span_append letters stop).1
      simp [pair?, taken, some, value?_eq_some_iff.mpr value_at]

theorem PairAt.split (pair : PairAt cs key value rest) : key ++ '=' :: (value ++ rest) = cs := by
  cases pair with
  | pair _ _ value_at => cases value_at <;> rfl

theorem PairAt.value_ne_nil (pair : PairAt cs key value rest) : value ≠ [] := by
  cases pair with
  | pair _ _ value_at =>
    cases value_at with
    | quotation quoted =>
      cases quoted
      exact List.cons_ne_nil _ _
    | word _ some => exact some

/-- A key reaches back to the start of its run, so that no pair starts inside of a run unless one
starts in front of it. -/
theorem PairAt.of_run {run back tail : List Char} (letters : ∀ c ∈ back, isKey c = true)
    (stop : ∀ c ∈ tail.head?, isKey c = false) (pair : PairAt (back ++ tail) key value rest)
    (some : run ≠ []) (keys : ∀ c ∈ run, isKey c = true) :
    PairAt (run ++ tail) run value rest := by
  generalize whole : back ++ tail = cs at pair
  cases pair with
  | @pair _ behind _ _ _ key_letters value_at =>
    have equals : ∀ c ∈ ('=' :: behind).head?, isKey c = false := by simp [isKey_equals]
    obtain ⟨-, left⟩ := span_append letters stop
    rw [whole, (span_append key_letters equals).2] at left
    subst left
    exact .pair some keys value_at

/-! ### The search for pairs -/

structure Found where
  first : Nat
  key : List Char
  value : List Char

/-- The search from the left, which has come to `offset`: where a pair starts it is found and the
search goes on behind it, elsewhere one character is passed. -/
inductive Search : Nat → List Char → List Found → Prop
  | ended {offset : Nat} : Search offset [] []
  | passed {offset : Nat} {c : Char} {cs : List Char} {found : List Found}
      (none : ∀ key value rest, ¬PairAt (c :: cs) key value rest)
      (later : Search (offset + 1) cs found) : Search offset (c :: cs) found
  | found {offset : Nat} {cs key value rest : List Char} {found : List Found}
      (pair : PairAt cs key value rest)
      (later : Search (offset + (key.length + 1 + value.length)) rest found) :
      Search offset cs (⟨offset, key, value⟩ :: found)

theorem PairAt.ne_nil (pair : PairAt cs key value rest) : cs ≠ [] := by
  rw [← pair.split]
  exact List.append_ne_nil_of_right_ne_nil key (List.cons_ne_nil _ _)

theorem Search.unique {offset : Nat} {found other : List Found} (first : Search offset cs found)
    (second : Search offset cs other) : found = other := by
  induction first generalizing other with
  | ended =>
    cases second with
    | ended => rfl
    | found pair => exact absurd rfl pair.ne_nil
  | passed none _ ih =>
    cases second with
    | passed _ later => exact ih later
    | found pair => exact absurd pair (none _ _ _)
  | found pair _ ih =>
    cases second with
    | ended => exact absurd rfl pair.ne_nil
    | passed none => exact absurd pair (none _ _ _)
    | found again later =>
      have same := pair?_eq_some_iff.mpr pair
      rw [pair?_eq_some_iff.mpr again] at same
      cases same
      rw [ih later]

/-- A text is divided as the search goes through it. -/
inductive Divided : List Char → List Stretch → Prop
  | ended : Divided [] []
  | passed {c : Char} {cs : List Char} {parts : List Stretch}
      (none : ∀ key value rest, ¬PairAt (c :: cs) key value rest) (later : Divided cs parts) :
      Divided (c :: cs) (addPlain [c] parts)
  | found {cs key value rest : List Char} {parts : List Stretch} (pair : PairAt cs key value rest)
      (later : Divided rest parts) : Divided cs (.pair key value :: parts)

variable {parts : List Stretch}

theorem addPlain_append (c : Char) (text : List Char) (parts : List Stretch) :
    addPlain [c] (addPlain text parts) = addPlain (c :: text) parts := by
  cases parts with
  | nil => rfl
  | cons part parts => cases part <;> rfl

/-- A run of characters, none of which starts a pair, is passed as a whole. -/
theorem Divided.run {run : List Char} (some : run ≠ [])
    (none : ∀ front back key value rest, front ++ back = run → back ≠ [] →
      ¬PairAt (back ++ cs) key value rest) (later : Divided cs parts) :
    Divided (run ++ cs) (addPlain run parts) := by
  induction run with
  | nil => exact absurd rfl some
  | cons c run ih =>
    have here := fun key value rest => none [] (c :: run) key value rest rfl (List.cons_ne_nil _ _)
    by_cases last : run = []
    · subst last
      exact .passed here later
    · rw [← addPlain_append]
      refine .passed here (ih last fun front back key value rest split => ?_)
      exact none (c :: front) back key value rest (congrArg (List.cons c) split)

theorem plainStart_ne_nil (some : cs ≠ []) : plainStart cs ≠ [] := by
  unfold plainStart
  split
  · simp [some]
  · assumption

/-- The stretch without a pair at the start of a text is passed by the search. -/
theorem Divided.plainStart (some : cs ≠ []) (none : pair? cs = none)
    (later : Divided (cs.drop (plainStart cs).length) parts) :
    Divided cs (addPlain (Terminal.plainStart cs) parts) := by
  have absent (key value rest : List Char) : ¬PairAt cs key value rest := by
    rw [← pair?_eq_some_iff, none]
    exact Option.some_ne_none _ ∘ Eq.symm
  cases letters : cs.takeWhile isKey with
  | nil =>
    obtain ⟨c, tail, rfl⟩ := List.exists_cons_of_ne_nil some
    have start : Terminal.plainStart (c :: tail) = [c] := by simp [Terminal.plainStart, letters]
    rw [start] at later ⊢
    exact .passed absent later
  | cons c run =>
    have start : Terminal.plainStart cs = cs.takeWhile isKey := by
      simp [Terminal.plainStart, letters]
    have run_some : cs.takeWhile isKey ≠ [] := by simp [letters]
    have keys : ∀ c ∈ cs.takeWhile isKey, isKey c = true := fun c => List.mem_takeWhile_imp
    have stop := head?_dropWhile_eq_false isKey cs
    have halves := List.takeWhile_append_dropWhile (p := isKey) (l := cs)
    rw [start, drop_takeWhile] at later
    rw [start]
    have unpaired (front back key value rest : List Char) (split : front ++ back = cs.takeWhile isKey)
        (_ : back ≠ []) : ¬PairAt (back ++ cs.dropWhile isKey) key value rest := by
      intro pair
      have inside : ∀ c ∈ back, isKey c = true := fun c member =>
        keys c (split ▸ List.mem_append_right front member)
      have whole := pair.of_run inside stop run_some keys
      rw [halves] at whole
      exact absent _ _ _ whole
    have divided := Divided.run run_some unpaired later
    rwa [halves] at divided

/-- What is read of a text is what the search goes through, if the fuel lasts as long as the
text. -/
theorem stretchesFrom_divided (fuel : Nat) (cs : List Char) (enough : cs.length ≤ fuel) :
    Divided cs (stretchesFrom fuel cs) := by
  induction fuel generalizing cs with
  | zero =>
    have none : cs = [] := List.eq_nil_of_length_eq_zero (Nat.le_zero.mp enough)
    subst none
    exact .ended
  | succ fuel ih =>
    unfold stretchesFrom
    split
    · rename_i none
      rw [List.isEmpty_iff.mp none]
      exact .ended
    · rename_i some
      rw [List.isEmpty_iff] at some
      split
      · rename_i key value rest read
        have pair := pair?_eq_some_iff.mp read
        have lengths := congrArg List.length pair.split
        simp only [List.length_append, List.length_cons] at lengths
        exact .found pair (ih rest (by omega))
      · rename_i none
        have start := List.length_pos_iff.mpr (plainStart_ne_nil some)
        refine .plainStart some none (ih _ ?_)
        rw [List.length_drop]
        omega

theorem stretches_divided (message : String) : Divided message.toList (stretches message) :=
  stretchesFrom_divided message.length message.toList (le_of_eq String.length_toList)

/-! ### What is found -/

def Stretch.text : Stretch → List Char
  | .plain text => text
  | .pair key value => key ++ '=' :: value

/-- The pairs among stretches, of which the first one starts at `offset`. -/
def foundFrom (offset : Nat) : List Stretch → List Found
  | [] => []
  | .plain text :: rest => foundFrom (offset + text.length) rest
  | .pair key value :: rest =>
    ⟨offset, key, value⟩ :: foundFrom (offset + (key.length + 1 + value.length)) rest

/-- A stretch is not empty, and of a pair neither are the key and the value. -/
def Stretch.Filled : Stretch → Prop
  | .plain text => text ≠ []
  | .pair key value => key ≠ [] ∧ value ≠ []

theorem foundFrom_addPlain (offset : Nat) (text : List Char) (parts : List Stretch) :
    foundFrom offset (addPlain text parts) = foundFrom (offset + text.length) parts := by
  cases parts with
  | nil => rfl
  | cons part parts => cases part <;> simp [addPlain, foundFrom, Nat.add_assoc]

theorem text_addPlain (text : List Char) (parts : List Stretch) :
    (addPlain text parts).flatMap Stretch.text = text ++ parts.flatMap Stretch.text := by
  cases parts with
  | nil => rfl
  | cons part parts => cases part <;> simp [addPlain, Stretch.text]

theorem Divided.text (divided : Divided cs parts) : parts.flatMap Stretch.text = cs := by
  induction divided with
  | ended => rfl
  | passed _ _ ih => rw [text_addPlain, ih, List.singleton_append]
  | found pair _ ih =>
    rw [List.flatMap_cons, ih, Stretch.text, List.append_assoc, List.cons_append, pair.split]

theorem Divided.search (divided : Divided cs parts) (offset : Nat) :
    Search offset cs (foundFrom offset parts) := by
  induction divided generalizing offset with
  | ended => exact .ended
  | passed none _ ih =>
    rw [foundFrom_addPlain]
    exact .passed none (ih (offset + 1))
  | found pair _ ih => exact .found pair (ih _)

theorem Divided.filled (divided : Divided cs parts) : ∀ part ∈ parts, part.Filled := by
  induction divided with
  | ended => simp
  | @passed c _ parts _ _ ih =>
    cases parts with
    | nil => simp [addPlain, Stretch.Filled]
    | cons part parts =>
      cases part <;> simp_all [addPlain, Stretch.Filled]
  | found pair _ ih =>
    refine List.forall_mem_cons.mpr ⟨⟨?_, pair.value_ne_nil⟩, ih⟩
    cases pair with
    | pair some => exact some

end ScanSetup.Terminal
