import ScanSetup.Text.Quoted

set_option autoImplicit false

namespace ScanSetup.Text

def IsQuote (c : Char) : Prop := c = '\x27' ∨ c = '\x22'

/-- The characters that escapes are written with. -/
def escapeAlphabet : List Char := "\\tnrxuU0123456789abcdef".toList

variable {cs : List Char} {quote c d : Char}

theorem IsQuote.isPrintable (mark : IsQuote quote) : isPrintable quote = true := by
  rcases mark with rfl | rfl <;> decide +kernel

theorem quoteFor_isQuote (cs : List Char) : IsQuote (quoteFor cs) := by
  unfold quoteFor
  split
  · exact .inr rfl
  · exact .inl rfl

theorem isPrintable_escapeAlphabet : ∀ d ∈ escapeAlphabet, isPrintable d = true :=
  List.all_eq_true.mp (by decide +kernel)

theorem not_isQuote_escapeAlphabet : ∀ d ∈ escapeAlphabet, ¬IsQuote d := by
  have all : (escapeAlphabet.all fun d => !(d == '\x27' || d == '\x22')) = true := by decide +kernel
  simpa [IsQuote] using List.all_eq_true.mp all

theorem hexDigits_subset (width n : Nat) : ∀ d ∈ hexDigits width n, d ∈ escapeAlphabet := by
  have digits : ∀ k < 16, Nat.digitChar k ∈ escapeAlphabet := by decide +kernel
  intro d member
  obtain ⟨i, -, rfl⟩ := List.mem_map.mp member
  exact digits _ (Nat.mod_lt _ (by decide))

/-- What stands for a character is the character itself, if it is printable or the quote, and
characters of escapes. -/
theorem mem_escapeIn (member : d ∈ escapeIn quote c) :
    (d = c ∧ (c = quote ∨ isPrintable c = true)) ∨ d ∈ escapeAlphabet := by
  have named {letter : Char} (known : letter ∈ escapeAlphabet) (member : d ∈ ['\\', letter]) :
      d ∈ escapeAlphabet := by
    simp only [List.mem_cons, List.not_mem_nil, or_false] at member
    rcases member with rfl | rfl
    · decide
    · exact known
  have coded {letter : Char} {width n : Nat} (known : letter ∈ escapeAlphabet)
      (member : d ∈ '\\' :: letter :: hexDigits width n) : d ∈ escapeAlphabet := by
    rw [List.mem_cons, List.mem_cons] at member
    rcases member with rfl | rfl | digit
    · decide
    · exact known
    · exact hexDigits_subset width n d digit
  unfold escapeIn at member
  split at member
  · rename_i special
    simp only [List.mem_cons, List.not_mem_nil, or_false] at member
    rcases member with rfl | rfl
    · exact .inr (by decide)
    · simp only [Bool.or_eq_true, beq_iff_eq] at special
      rcases special with same | rfl
      · exact .inl ⟨rfl, .inl same⟩
      · exact .inr (by decide)
  split at member
  · exact .inr (named (by decide) member)
  split at member
  · exact .inr (named (by decide) member)
  split at member
  · exact .inr (named (by decide) member)
  split at member
  · rename_i printable
    exact .inl ⟨List.mem_singleton.mp member, .inr printable⟩
  split at member
  · exact .inr (coded (by decide) member)
  split at member
  · exact .inr (coded (by decide) member)
  · exact .inr (coded (by decide) member)

/-- A quote stands for itself only. -/
theorem eq_of_quote_mem_escapeIn (mark : IsQuote d) (member : d ∈ escapeIn quote c) : d = c := by
  rcases mem_escapeIn member with ⟨same, -⟩ | escape
  · exact same
  · exact absurd mark (not_isQuote_escapeAlphabet d escape)

theorem quote_mem_escaped (mark : IsQuote d) (member : d ∈ cs.flatMap (escapeIn quote)) :
    d ∈ cs := by
  obtain ⟨c, inside, escaped⟩ := List.mem_flatMap.mp member
  rwa [eq_of_quote_mem_escapeIn mark escaped]

theorem isPrintable_escaped (mark : IsQuote quote) :
    ∀ d ∈ cs.flatMap (escapeIn quote), isPrintable d = true := by
  intro d member
  obtain ⟨c, -, escaped⟩ := List.mem_flatMap.mp member
  rcases mem_escapeIn escaped with ⟨rfl, rfl | printable⟩ | escape
  · exact mark.isPrintable
  · exact printable
  · exact isPrintable_escapeAlphabet d escape

theorem isPrintable_quotedChars (cs : List Char) :
    ∀ d ∈ quotedChars cs, isPrintable d = true := by
  have mark := quoteFor_isQuote cs
  intro d member
  rw [quotedChars, List.cons_append, List.mem_cons, List.mem_append, List.mem_singleton] at member
  rcases member with rfl | inside | rfl
  · exact mark.isPrintable
  · exact isPrintable_escaped mark d inside
  · exact mark.isPrintable

/-- A text without one of the two quotes is put between quotes that it does not have. -/
theorem quoteFor_not_mem (lacking : ¬('\x27' ∈ cs ∧ '\x22' ∈ cs)) : quoteFor cs ∉ cs := by
  unfold quoteFor
  by_cases single : '\x27' ∈ cs
  · have double : '\x22' ∉ cs := fun member => lacking ⟨single, member⟩
    simp [single, double]
  · simp [single]

theorem quoteFor_of_mem (member : '\x22' ∈ cs) : quoteFor cs = '\x27' := by
  simp [quoteFor, member]

end ScanSetup.Text
