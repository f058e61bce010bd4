import ScanSetup.Proofs.Terminal.Spans
import ScanSetup.Resolution

set_option autoImplicit false

namespace ScanSetup.Terminal

open Text Options

/-- The text has quotes of both kinds. -/
def BothQuotes (value : String) : Prop := '\x27' ∈ value.toList ∧ '\x22' ∈ value.toList

instance (value : String) : Decidable (BothQuotes value) :=
  inferInstanceAs (Decidable ('\x27' ∈ value.toList ∧ '\x22' ∈ value.toList))

/-- The pairs of a trace, behind a head of eight characters: the option and its value. -/
def tracePairs (long : String) (shownValue : List Char) : List Found :=
  [⟨8, "option".toList, "--".toList ++ long.toList⟩,
    ⟨long.length + 18, "value".toList, shownValue⟩]

/-- Quoted text up to its first single quote, which is escaped and which `front` stands in front
of. -/
def opening (front : List Char) : List Char :=
  '\x27' :: (front.flatMap (escapeIn '\x27') ++ ['\\']) ++ ['\x27']

variable {spec : Spec Effect} {value : String} {cs tail front back shownValue rest : List Char}
variable {others : List Found}

/-! ### The text of a trace -/

theorem traceText_toList (valued : spec.takesValue = true) (value : String) :
    (traceText spec value).toList =
      "option".toList ++ '=' :: (("--".toList ++ spec.long.toList) ++
        ' ' :: ("value".toList ++ '=' :: quotedChars value.toList)) := by
  simp [traceText, valued, quoted]

/-- The names of options are words, and none of their characters is hidden. -/
theorem long_characters (known : spec ∈ schema.specs) :
    ∀ c ∈ spec.long.toList, isBlank c = false ∧ isHidden c = false := by
  have all : (table.all fun spec => spec.long.toList.all fun c => !isBlank c && !isHidden c) = true :=
    by decide +kernel
  intro c member
  simpa using List.all_eq_true.mp (List.all_eq_true.mp all spec known) c member

theorem isHidden_eq_false {c : Char} (printable : isPrintable c = true) : isHidden c = false := by
  by_contra hidden
  simp only [isHidden, Bool.not_eq_false, Bool.or_eq_true, beq_iff_eq] at hidden
  rcases hidden with (((rfl | rfl) | rfl) | rfl) | rfl <;> exact absurd printable (by decide +kernel)

/-- Nothing in a trace is hidden, whatever the value is. -/
theorem visible_traceText (known : spec ∈ schema.specs) (valued : spec.takesValue = true)
    (value : String) : Visible (traceText spec value).toList := by
  intro c member
  rw [traceText_toList valued] at member
  simp only [List.mem_append, List.mem_cons] at member
  rcases member with option | rfl | (dashes | long) | rfl | name | rfl | shown
  · exact (by decide +kernel : Visible "option".toList) c option
  · decide
  · exact (by decide +kernel : Visible "--".toList) c dashes
  · exact (long_characters known c long).2
  · decide
  · exact (by decide +kernel : Visible "value".toList) c name
  · decide
  · exact isHidden_eq_false (isPrintable_quotedChars _ c shown)

/-! ### The pairs of a trace -/

theorem PairAt.isKey_head {c : Char} {key value : List Char}
    (pair : PairAt (c :: cs) key value rest) : isKey c = true := by
  generalize whole : c :: cs = text at pair
  cases pair with
  | @pair key tail _ _ some letters _ =>
    obtain ⟨first, more, rfl⟩ := List.exists_cons_of_ne_nil some
    cases whole
    exact letters c List.mem_cons_self

theorem pairAt_option (dark : ∀ c ∈ cs, isBlank c = false) (rest : List Char) :
    PairAt ("option".toList ++ '=' :: (("--".toList ++ cs) ++ ' ' :: rest)) "option".toList
      ("--".toList ++ cs) (' ' :: rest) := by
  refine .pair (by decide) (List.all_eq_true.mp (by decide +kernel)) (.word ?_ (by simp) ?_ ?_)
  · rintro _ left ⟨mark, -, -⟩ split
    have dashes : "--".toList = ['-', '-'] := by decide
    simp only [dashes, List.cons_append, List.cons.injEq] at split
    rw [split.1] at mark
    exact absurd mark (by simp [IsQuote])
  · intro c member
    rcases List.mem_append.mp member with dash | letter
    · have dashes : ("--".toList.all fun c => !isBlank c) = true := by decide +kernel
      simpa using List.all_eq_true.mp dashes c dash
    · exact dark c letter
  · rintro _ ⟨⟩
    decide +kernel

theorem pairAt_value (value_at : ValueAt tail shownValue rest) :
    PairAt ("value".toList ++ '=' :: tail) "value".toList shownValue rest :=
  .pair (by decide) (List.all_eq_true.mp (by decide +kernel)) value_at

theorem search_traceText (known : spec ∈ schema.specs) (valued : spec.takesValue = true)
    (value_at : ValueAt (quotedChars value.toList) shownValue rest)
    (later : Search (spec.long.length + 18 + (5 + 1 + shownValue.length)) rest others) :
    Search 8 (traceText spec value).toList (tracePairs spec.long shownValue ++ others) := by
  rw [traceText_toList valued]
  have second : Search (spec.long.length + 18)
      ("value".toList ++ '=' :: quotedChars value.toList)
      (⟨spec.long.length + 18, "value".toList, shownValue⟩ :: others) :=
    .found (pairAt_value value_at) later
  have space : Search (spec.long.length + 17)
      (' ' :: ("value".toList ++ '=' :: quotedChars value.toList))
      (⟨spec.long.length + 18, "value".toList, shownValue⟩ :: others) :=
    .passed (fun _ _ _ pair => absurd pair.isKey_head (by decide +kernel)) second
  have width : 8 + ("option".toList.length + 1 + ("--".toList ++ spec.long.toList).length) =
      spec.long.length + 17 := by
    have option : "option".toList.length = 6 := by decide
    have dashes : "--".toList.length = 2 := by decide
    rw [List.length_append, option, dashes, String.length_toList]
    omega
  exact .found (pairAt_option (fun c member => (long_characters known c member).1) _) (width ▸ space)

/-! ### Quoted values -/

theorem newline_not_mem_escaped {quote : Char} (mark : IsQuote quote) (cs : List Char) :
    '\n' ∉ cs.flatMap (escapeIn quote) := by
  intro member
  exact absurd (isPrintable_escaped mark _ member) (by decide +kernel)

theorem quotation_quotedChars (lacking : ¬('\x27' ∈ cs ∧ '\x22' ∈ cs)) :
    Quotation (quotedChars cs) := by
  have mark := quoteFor_isQuote cs
  exact .between mark (fun member => quoteFor_not_mem lacking (quote_mem_escaped mark member))
    (newline_not_mem_escaped mark cs)

/-- With quotes of both kinds, the quotation ends at the first single quote. -/
theorem quotation_opening (absent : '\x27' ∉ front) : Quotation (opening front) := by
  have mark : IsQuote '\x27' := .inl rfl
  refine .between mark (fun member => ?_) (fun member => ?_)
  · rcases List.mem_append.mp member with inside | last
    · exact absent (quote_mem_escaped mark inside)
    · exact absurd last (by decide)
  · rcases List.mem_append.mp member with inside | last
    · exact newline_not_mem_escaped mark front inside
    · exact absurd last (by decide)

/-- A value with quotes of both kinds goes on behind that quotation. -/
theorem quotedChars_opening (double : '\x22' ∈ front ++ '\x27' :: back) :
    quotedChars (front ++ '\x27' :: back) =
      opening front ++ (back.flatMap (escapeIn '\x27') ++ ['\x27']) := by
  have escaped : escapeIn '\x27' '\x27' = ['\\', '\x27'] := by decide
  simp [quotedChars, quoteFor_of_mem double, opening, escaped]

/-! ### What is emphasised -/

theorem emphasises_quoted (known : spec ∈ schema.specs) (valued : spec.takesValue = true)
    (lacking : ¬BothQuotes value) :
    Emphasises (traceText spec value) (tracePairs spec.long (quoted value).toList) := by
  refine emphasises_of_search (visible_traceText known valued value) ?_
  have whole : ValueAt (quotedChars value.toList ++ []) (quotedChars value.toList) [] :=
    .quotation (quotation_quotedChars lacking)
  rw [List.append_nil] at whole
  rw [quoted, String.toList_ofList]
  exact search_traceText known valued whole .ended

theorem emphasises_opening (known : spec ∈ schema.specs) (valued : spec.takesValue = true)
    (both : BothQuotes value) (split : value.toList = front ++ '\x27' :: back)
    (absent : '\x27' ∉ front) :
    ∃ others, Emphasises (traceText spec value) (tracePairs spec.long (opening front) ++ others) := by
  have value_at : ValueAt (quotedChars value.toList) (opening front)
      (back.flatMap (escapeIn '\x27') ++ ['\x27']) := by
    rw [split, quotedChars_opening (split ▸ both.2)]
    exact .quotation (quotation_opening absent)
  have later := (stretchesFrom_divided _ (back.flatMap (escapeIn '\x27') ++ ['\x27'])
    (le_refl _)).search (spec.long.length + 18 + (5 + 1 + (opening front).length))
  exact ⟨_, emphasises_of_search (visible_traceText known valued value)
    (search_traceText known valued value_at later)⟩

theorem opening_ne_quoted (both : BothQuotes value)
    (split : value.toList = front ++ '\x27' :: back) : opening front ≠ (quoted value).toList := by
  intro same
  rw [quoted, String.toList_ofList, split, quotedChars_opening (split ▸ both.2)] at same
  have lengths := congrArg List.length same
  rw [List.length_append, List.length_append, List.length_singleton] at lengths
  omega

/-- The trace of an option with a value stands behind the head as it is, and is emphasised as two
pairs, the option and the whole quoted value, exactly if the value does not have quotes of both
kinds. Else the second pair ends with the first single quote of the value. -/
theorem highlight_traceText (known : spec ∈ schema.specs) (valued : spec.takesValue = true)
    (value : String) :
    (highlight (traceText spec value)).plain = "[debug] " ++ traceText spec value ∧
      (Emphasises (traceText spec value) (tracePairs spec.long (quoted value).toList) ↔
        ¬BothQuotes value) ∧
      (BothQuotes value → ∃ front back others, value.toList = front ++ '\x27' :: back ∧
        '\x27' ∉ front ∧
        Emphasises (traceText spec value) (tracePairs spec.long (opening front) ++ others)) := by
  have cut (both : BothQuotes value) : ∃ front back others,
      value.toList = front ++ '\x27' :: back ∧ '\x27' ∉ front ∧
        Emphasises (traceText spec value) (tracePairs spec.long (opening front) ++ others) := by
    obtain ⟨front, back, split, absent⟩ := List.eq_append_cons_of_mem both.1
    obtain ⟨others, emphasises⟩ := emphasises_opening known valued both split absent
    exact ⟨front, back, others, split, absent, emphasises⟩
  refine ⟨plain_highlight (visible_traceText known valued value),
    ⟨fun whole both => ?_, emphasises_quoted known valued⟩, cut⟩
  obtain ⟨front, back, others, split, -, emphasises⟩ := cut both
  have same := (emphasises.search _).mp ((whole.search _).mpr rfl)
  simp only [tracePairs, List.cons_append, List.nil_append, List.cons.injEq, Found.mk.injEq,
    true_and] at same
  exact opening_ne_quoted both split same.1.symm

/-- A value that looks like a pair itself, and has a single quote. -/
theorem highlight_traceText_apostrophe :
    table[2] ∈ schema.specs ∧ table[2].takesValue = true ∧
      Emphasises "option=--sortcriteria value=\"it's k=v\""
        (tracePairs "sortcriteria" "\"it's k=v\"".toList) := by
  have known : table[2] ∈ schema.specs := List.getElem_mem _
  have lacking : ¬BothQuotes "it's k=v" := by decide +kernel
  have line : traceText table[2] "it's k=v" = "option=--sortcriteria value=\"it's k=v\"" := by
    decide +kernel
  have shown : quoted "it's k=v" = "\"it's k=v\"" := by decide +kernel
  have whole := (highlight_traceText known rfl "it's k=v").2.1.mpr lacking
  rw [line, shown] at whole
  exact ⟨known, rfl, whole⟩

/-- With quotes of both kinds, the value ends at its apostrophe, and another pair is found in the
rest of it. -/
theorem traceText_bothQuotes_divided :
    traceText table[2] "it's \"a\" k=v" =
        "option=--sortcriteria value='it\\'s \"a\" k=v'" ∧
      (highlight "option=--sortcriteria value='it\\'s \"a\" k=v'").spans.filter emphasised =
        [⟨8, 14, .boldIn .magenta⟩, ⟨15, 29, .boldIn .blue⟩, ⟨30, 35, .boldIn .magenta⟩,
          ⟨36, 41, .boldIn .green⟩, ⟨47, 48, .boldIn .magenta⟩, ⟨49, 51, .boldIn .green⟩] ∧
      ¬Emphasises (traceText table[2] "it's \"a\" k=v")
        (tracePairs "sortcriteria" (quoted "it's \"a\" k=v").toList) := by
  refine ⟨by decide +kernel, by decide +kernel, fun whole => ?_⟩
  exact absurd whole.spans (by decide +kernel)

end ScanSetup.Terminal
