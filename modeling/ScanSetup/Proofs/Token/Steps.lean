import ScanSetup.Token

set_option autoImplicit false

namespace ScanSetup

open Options

variable {Meaning : Type} {schema : Schema Meaning} {argument : String}
variable {tokens : List (Token Meaning)} {spec : Spec Meaning} {written : String}

theorem tokenize_ended (tail : List String) :
    tokenize schema (endOfOptions :: tail) = ⟨tail.map .path, none⟩ := by
  simp only [tokenize, beq_self_eq_true, ↓reduceIte]

theorem tokenize_complete (other : argument ≠ endOfOptions)
    (scanned : scan schema argument = .complete tokens) (rest : List String) :
    tokenize schema (argument :: rest) = (tokenize schema rest).after tokens := by
  simp only [tokenize, beq_iff_eq, other, ↓reduceIte, scanned]

theorem tokenize_failed {error : UsageError} (other : argument ≠ endOfOptions)
    (scanned : scan schema argument = .failed tokens error) (rest : List String) :
    tokenize schema (argument :: rest) = ⟨tokens, some error⟩ := by
  simp only [tokenize, beq_iff_eq, other, ↓reduceIte, scanned]

theorem tokenize_missing (other : argument ≠ endOfOptions)
    (scanned : scan schema argument = .waiting tokens spec written) :
    tokenize schema [argument] = ⟨tokens, some (.missingValue written)⟩ := by
  simp only [tokenize, beq_iff_eq, other, ↓reduceIte, scanned]

theorem tokenize_waiting (other : argument ≠ endOfOptions)
    (scanned : scan schema argument = .waiting tokens spec written) (value : String)
    (rest : List String) :
    tokenize schema (argument :: value :: rest) =
      (tokenize schema rest).after (tokens ++ [.option spec value written]) := by
  rw [tokenize.eq_def]
  simp only [beq_iff_eq, other, ↓reduceIte, scanned]

/-- Induction on a command line as it is read: argument by argument, each with its value. -/
@[elab_as_elim]
theorem arguments_induction (schema : Schema Meaning) {motive : List String → Prop}
    (nil : motive [])
    (ended : ∀ tail, motive (endOfOptions :: tail))
    (complete : ∀ argument rest tokens, argument ≠ endOfOptions →
      scan schema argument = .complete tokens → motive rest → motive (argument :: rest))
    (failed : ∀ argument rest tokens error, argument ≠ endOfOptions →
      scan schema argument = .failed tokens error → motive (argument :: rest))
    (missing : ∀ argument tokens spec written, argument ≠ endOfOptions →
      scan schema argument = .waiting tokens spec written → motive [argument])
    (waiting : ∀ argument value rest tokens spec written, argument ≠ endOfOptions →
      scan schema argument = .waiting tokens spec written → motive rest →
      motive (argument :: value :: rest))
    (arguments : List String) : motive arguments := by
  induction arguments using tokenize.induct schema with
  | case1 => exact nil
  | case2 argument rest same =>
    rw [beq_iff_eq.mp same]
    exact ended rest
  | case3 argument rest other tokens scanned ih =>
    exact complete argument rest tokens (mt beq_iff_eq.mpr other) scanned ih
  | case4 argument rest other tokens error scanned =>
    exact failed argument rest tokens error (mt beq_iff_eq.mpr other) scanned
  | case5 argument other tokens spec written scanned =>
    exact missing argument tokens spec written (mt beq_iff_eq.mpr other) scanned
  | case6 argument other tokens spec written scanned value rest ih =>
    exact waiting argument value rest tokens spec written (mt beq_iff_eq.mpr other) scanned ih

end ScanSetup
