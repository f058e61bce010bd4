import ScanSetup.Lint.Selection
import ScanSetup.Proofs.Text.Blank
import ScanSetup.Proofs.Text.Split

set_option autoImplicit false

namespace ScanSetup.Lint

open Text

/-- An optional sign and letters only. -/
def Leading (token : List Char) : Prop :=
  ∃ sign name, token = sign ++ name ∧ sign ∈ [[], ['+'], ['-']] ∧ ∀ l ∈ name, isLetter l = true

/-- The character can be told from these tokens: it is no letter and no sign, and no token holds
it. -/
structure Separates (c : Char) (tokens : List (List Char)) : Prop where
  notLetter : isLetter c = false
  notPlus : c ≠ '+'
  notMinus : c ≠ '-'
  absent : ∀ token ∈ tokens, c ∉ token

def joined (c : Char) (tokens : List (List Char)) : String := String.ofList ([c].intercalate tokens)

theorem comma_separates {tokens : List (List Char)} (absent : ∀ token ∈ tokens, ',' ∉ token) :
    Separates ',' tokens :=
  ⟨by decide +kernel, by decide, by decide, absent⟩

/-! ### Where the separator stands -/

theorem signed_unsigned {text : List Char} (head : ∀ c ∈ text.head?, c ≠ '+' ∧ c ≠ '-') :
    signed text = (none, text) := by
  unfold signed
  split
  · exact absurd rfl (head '+' rfl).1
  · exact absurd rfl (head '-' rfl).2
  · rfl

theorem isLetter_not_sign {l : Char} (letter : isLetter l = true) : l ≠ '+' ∧ l ≠ '-' := by
  constructor
  · rintro rfl
    exact absurd letter (by decide +kernel)
  · rintro rfl
    exact absurd letter (by decide +kernel)

/-- Behind its sign, if it has one, a leading token goes on with its letters. -/
theorem signed_leading {sign name back : List Char} (known : sign ∈ [[], ['+'], ['-']])
    (letters : ∀ l ∈ name, isLetter l = true) (head : ∀ c ∈ back.head?, c ≠ '+' ∧ c ≠ '-') :
    (signed (sign ++ (name ++ back))).2 = name ++ back := by
  simp only [List.mem_cons, List.not_mem_nil, or_false] at known
  rcases known with rfl | rfl | rfl
  · rw [List.nil_append, signed_unsigned]
    cases name with
    | nil => exact head
    | cons l name =>
      intro c first
      obtain rfl : l = c := by simpa using first
      exact isLetter_not_sign (letters l List.mem_cons_self)
  · rfl
  · rfl

theorem separator_leading {first back : List Char} (leading : Leading first)
    (stop : ∀ c ∈ back.head?, isLetter c = false ∧ c ≠ '+' ∧ c ≠ '-') :
    separator (String.ofList (first ++ back)) = back.head?.getD ',' := by
  obtain ⟨sign, name, rfl, known, letters⟩ := leading
  have behind := signed_leading known letters fun c head => (stop c head).2
  rw [separator, String.toList_ofList, List.append_assoc, behind,
    (span_append letters fun c head => (stop c head).1).2]

section

variable {c : Char} {first : List Char} {rest : List (List Char)}
variable (leading : Leading first) (separates : Separates c (first :: rest))

include leading separates

theorem separator_joined (several : rest ≠ []) : separator (joined c (first :: rest)) = c := by
  rw [joined, List.intercalate_cons_of_ne_nil several, List.append_assoc,
    separator_leading leading]
  · rfl
  · intro d head
    obtain rfl : c = d := by simpa using head
    exact ⟨separates.notLetter, separates.notPlus, separates.notMinus⟩

theorem pieces_joined (plain : ∀ token ∈ first :: rest, ',' ∉ token) :
    pieces (separator (joined c (first :: rest))) (joined c (first :: rest)).toList =
      first :: rest := by
  cases rest with
  | nil =>
    -- A single token shows no separator, and is taken to be one of those between commas.
    have comma : separator (joined c [first]) = ',' := by
      have own : separator (String.ofList (first ++ [])) = ',' :=
        separator_leading leading (by simp)
      simpa [joined] using own
    rw [comma, pieces_eq_splitOn]
    simpa [joined] using List.splitOn_eq_singleton (plain first List.mem_cons_self)
  | cons second others =>
    rw [separator_joined leading separates (List.cons_ne_nil _ _), joined, String.toList_ofList,
      pieces_eq_splitOn]
    exact List.splitOn_intercalate c separates.absent (List.cons_ne_nil _ _)

end

/-- It does not matter which character stands between the tokens of a list of lint types, as long as
it can be told from them and the first token is a plain name. The separator is found, the tokens are
found again, and their selection is the one that is written with commas. -/
theorem Selection.parse_joined (catalog : Catalog) {c : Char} {first : List Char}
    {rest : List (List Char)} (leading : Leading first) (separates : Separates c (first :: rest))
    (plain : ∀ token ∈ first :: rest, ',' ∉ token) :
    (rest ≠ [] → separator (joined c (first :: rest)) = c) ∧
      pieces (separator (joined c (first :: rest))) (joined c (first :: rest)).toList =
        first :: rest ∧
      Selection.parse catalog (joined c (first :: rest)) =
        Selection.parse catalog (joined ',' (first :: rest)) := by
  refine ⟨separator_joined leading separates, pieces_joined leading separates plain, ?_⟩
  rw [Selection.parse, Selection.parse, pieces_joined leading separates plain,
    pieces_joined leading (comma_separates plain) plain]

/-- A list between semicolons, with an empty token, a blank in a name, and a sign in a name. -/
theorem Selection.parse_joined_semicolons :
    Leading "+défaults".toList ∧ separator "+défaults;;-e f;+a-b" = ';' ∧
      Selection.parse catalog "+défaults;;-e f;+a-b" =
        Selection.parse catalog "+défaults,,-e f,+a-b" := by
  have leading : Leading "+défaults".toList :=
    ⟨['+'], "défaults".toList, rfl, by decide, List.all_eq_true.mp (by decide +kernel)⟩
  have separates : Separates ';' ["+défaults".toList, [], "-e f".toList, "+a-b".toList] :=
    ⟨by decide +kernel, by decide, by decide, by decide +kernel⟩
  obtain ⟨found, -, same⟩ := Selection.parse_joined catalog leading separates (by decide +kernel)
  exact ⟨leading, found (List.cons_ne_nil _ _), same⟩

end ScanSetup.Lint
