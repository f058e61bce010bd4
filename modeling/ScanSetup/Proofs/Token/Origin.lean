import ScanSetup.Proofs.Token.Writing

set_option autoImplicit false

namespace ScanSetup

open Options

variable {Meaning : Type} {schema : Schema Meaning} {spec : Spec Meaning}
variable {p : Char → Prop}

/-- The option of a token is one of the schema, and its value consists of characters that
satisfy `p`. -/
def Token.From (schema : Schema Meaning) (p : Char → Prop) : Token Meaning → Prop
  | .option spec value _ => spec ∈ schema.specs ∧ ∀ c ∈ value.toList, p c
  | .path value => ∀ c ∈ value.toList, p c

/-- All tokens that a scan has found, and the option that waits for a value. -/
def Scan.From (schema : Schema Meaning) (p : Char → Prop) : Scan Meaning → Prop
  | .complete tokens => ∀ token ∈ tokens, token.From schema p
  | .waiting tokens spec _ => (∀ token ∈ tokens, token.From schema p) ∧ spec ∈ schema.specs
  | .failed tokens _ => ∀ token ∈ tokens, token.From schema p

theorem scanLong_from (argument name : String) (value? : Option String)
    (pure : ∀ value, value? = some value → ∀ c ∈ value.toList, p c) :
    (scanLong schema argument name value?).From schema p := by
  unfold scanLong
  split
  · intro token member
    cases member
  · rename_i spec found
    have known : spec ∈ schema.specs := List.mem_of_find?_eq_some found
    split
    · rename_i value _
      intro token member
      rw [List.mem_singleton.mp member]
      exact ⟨known, pure value rfl⟩
    · refine ⟨?_, known⟩
      intro token member
      cases member
    · intro token member
      cases member
    · intro token member
      rw [List.mem_singleton.mp member]
      refine ⟨known, ?_⟩
      intro c empty
      cases empty

theorem Scan.From.after {front : List (Token Meaning)} {scanned : Scan Meaning}
    (first : ∀ token ∈ front, token.From schema p) (later : scanned.From schema p) :
    (scanned.after front).From schema p := by
  have both : ∀ back : List (Token Meaning), (∀ token ∈ back, token.From schema p) →
      ∀ token ∈ front ++ back, token.From schema p := by
    intro back second token member
    rcases List.mem_append.mp member with inFront | inBack
    · exact first token inFront
    · exact second token inBack
  cases scanned with
  | complete tokens => exact both tokens later
  | waiting tokens spec written => exact ⟨both tokens later.1, later.2⟩
  | failed tokens error => exact both tokens later

theorem scanCluster_from (names : List Char) (pure : ∀ c ∈ names, p c) :
    (scanCluster schema names).From schema p := by
  induction names with
  | nil =>
    intro token member
    cases member
  | cons name rest ih =>
    have tail : ∀ c ∈ rest, p c := fun c member => pure c (List.mem_cons_of_mem _ member)
    unfold scanCluster
    split
    · intro token member
      cases member
    · rename_i spec found
      have known : spec ∈ schema.specs := List.mem_of_find?_eq_some found
      split
      · split
        · refine ⟨?_, known⟩
          intro token member
          cases member
        · intro token member
          rw [List.mem_singleton.mp member]
          refine ⟨known, ?_⟩
          simpa only [String.toList_ofList] using tail
      · refine Scan.From.after ?_ (ih tail)
        intro token member
        rw [List.mem_singleton.mp member]
        refine ⟨known, ?_⟩
        intro c empty
        cases empty

theorem scan_from (schema : Schema Meaning) (argument : String) (pure : ∀ c ∈ argument.toList, p c) :
    (scan schema argument).From schema p := by
  have spelled := Shape.of_spells argument
  unfold scan
  split
  · intro token member
    rw [List.mem_singleton.mp member]
    exact pure
  · rename_i name value? shape
    rw [shape] at spelled
    refine scanLong_from argument name value? ?_
    rintro value rfl c member
    refine pure c ?_
    rw [show argument = "--" ++ name ++ "=" ++ value from spelled]
    simp [member]
  · rename_i names shape
    rw [shape] at spelled
    refine scanCluster_from names ?_
    intro c member
    refine pure c ?_
    rw [spelled.2]
    simp [member]

/-- Tokens have options of the schema, and values made of characters of the arguments. -/
theorem tokenize_from (schema : Schema Meaning) {arguments : List String}
    (pure : ∀ argument ∈ arguments, ∀ c ∈ argument.toList, p c) :
    ∀ token ∈ (tokenize schema arguments).list, token.From schema p := by
  induction arguments using arguments_induction schema with
  | nil =>
    intro token member
    cases member
  | ended tail =>
    rw [tokenize_ended]
    intro token member
    obtain ⟨value, inTail, rfl⟩ := List.mem_map.mp member
    exact pure value (List.mem_cons_of_mem _ inTail)
  | complete argument rest tokens other scanned ih =>
    have found := scan_from schema argument (pure argument (List.mem_cons_self ..))
    rw [scanned] at found
    rw [tokenize_complete other scanned]
    intro token member
    rcases List.mem_append.mp member with here | later
    · exact found token here
    · exact ih (fun a inRest => pure a (List.mem_cons_of_mem _ inRest)) token later
  | failed argument rest tokens error other scanned =>
    have found := scan_from schema argument (pure argument (List.mem_cons_self ..))
    rw [scanned] at found
    rw [tokenize_failed other scanned]
    exact found
  | missing argument tokens spec written other scanned =>
    have found := scan_from schema argument (pure argument (List.mem_cons_self ..))
    rw [scanned] at found
    rw [tokenize_missing other scanned]
    exact found.1
  | waiting argument value rest tokens spec written other scanned ih =>
    have found := scan_from schema argument (pure argument (List.mem_cons_self ..))
    rw [scanned] at found
    rw [tokenize_waiting other scanned]
    intro token member
    rcases List.mem_append.mp member with here | later
    · rcases List.mem_append.mp here with before | last
      · exact found.1 token before
      · rw [List.mem_singleton.mp last]
        exact ⟨found.2, pure value (by simp)⟩
    · exact ih (fun a inRest => pure a (by simp [inRest])) token later

end ScanSetup
