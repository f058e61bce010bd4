import ScanSetup.Proofs.Token.Steps

set_option autoImplicit false

namespace ScanSetup

open Options

variable {Meaning : Type} {schema : Schema Meaning}
variable {argument value : String} {rest : List String}
variable {tokens : List (Token Meaning)} {spec : Spec Meaning} {written : String}

/-- One of the arguments is read as the end of the options, and not as a value. -/
def endsOptions (schema : Schema Meaning) : List String → Bool
  | [] => false
  | argument :: rest =>
    if argument == endOfOptions then true
    else
      match scan schema argument with
      | .complete _ => endsOptions schema rest
      | .failed _ _ => false
      | .waiting _ _ _ =>
        match rest with
        | [] => false
        | _ :: rest => endsOptions schema rest

/-- The arguments that an argument is read with: itself, and the value it waits for. -/
def Scan.width : Scan Meaning → Nat
  | .waiting _ _ _ => 2
  | _ => 1

theorem endsOptions_ended (tail : List String) :
    endsOptions schema (endOfOptions :: tail) = true := by
  rw [endsOptions.eq_def]
  simp only [beq_self_eq_true, ↓reduceIte]

theorem endsOptions_complete (other : argument ≠ endOfOptions)
    (scanned : scan schema argument = .complete tokens) :
    endsOptions schema (argument :: rest) = endsOptions schema rest := by
  rw [endsOptions.eq_def]
  simp only [beq_iff_eq, other, ↓reduceIte, scanned]

theorem endsOptions_waiting (other : argument ≠ endOfOptions)
    (scanned : scan schema argument = .waiting tokens spec written) :
    endsOptions schema (argument :: value :: rest) = endsOptions schema rest := by
  rw [endsOptions.eq_def]
  simp only [beq_iff_eq, other, ↓reduceIte, scanned]

theorem Tokens.after_append (front back : List (Token Meaning)) (tokens : Tokens Meaning) :
    tokens.after (front ++ back) = (tokens.after back).after front := by
  simp only [Tokens.after, List.append_assoc]

/-- A complete argument is read without an error and leaves the options open. -/
theorem read_complete (other : argument ≠ endOfOptions)
    (scanned : scan schema argument = .complete tokens) :
    (tokenize schema [argument]).error? = none ∧ endsOptions schema [argument] = false := by
  rw [tokenize_complete other scanned, endsOptions_complete other scanned]
  exact ⟨rfl, rfl⟩

theorem read_waiting (other : argument ≠ endOfOptions)
    (scanned : scan schema argument = .waiting tokens spec written) (value : String) :
    (tokenize schema [argument, value]).error? = none ∧
      endsOptions schema [argument, value] = false := by
  rw [tokenize_waiting other scanned, endsOptions_waiting other scanned]
  exact ⟨rfl, rfl⟩

/-- Arguments behind others are read on their own, if those are read without an error and do not
end the options. -/
theorem read_append {front : List String} (back : List String)
    (success : (tokenize schema front).error? = none)
    (plain : endsOptions schema front = false) :
    tokenize schema (front ++ back) =
        (tokenize schema back).after (tokenize schema front).list ∧
      endsOptions schema (front ++ back) = endsOptions schema back := by
  induction front using arguments_induction schema with
  | nil => exact ⟨rfl, rfl⟩
  | ended tail =>
    rw [endsOptions_ended] at plain
    cases plain
  | complete argument rest tokens other scanned ih =>
    rw [endsOptions_complete other scanned] at plain
    rw [tokenize_complete other scanned] at success ⊢
    obtain ⟨same, ends⟩ := ih success plain
    rw [List.cons_append, tokenize_complete other scanned, same,
      endsOptions_complete other scanned]
    exact ⟨(Tokens.after_append tokens _ _).symm, ends⟩
  | failed argument rest tokens error other scanned =>
    rw [tokenize_failed other scanned] at success
    cases success
  | missing argument tokens spec written other scanned =>
    rw [tokenize_missing other scanned] at success
    cases success
  | waiting argument value rest tokens spec written other scanned ih =>
    rw [endsOptions_waiting other scanned] at plain
    rw [tokenize_waiting other scanned] at success ⊢
    obtain ⟨same, ends⟩ := ih success plain
    rw [List.cons_append, List.cons_append, tokenize_waiting other scanned, same,
      endsOptions_waiting other scanned]
    exact ⟨(Tokens.after_append _ _ _).symm, ends⟩

end ScanSetup
