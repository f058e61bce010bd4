import ScanSetup.Proofs.Run.Build
import ScanSetup.Proofs.Run.CommandText

set_option autoImplicit false

namespace ScanSetup

open Options

/-- The options of a command line, each with the argument that is its value. -/
def optionArguments {Meaning : Type} (schema : Schema Meaning) : List String → List String
  | [] => []
  | argument :: rest =>
    if argument == endOfOptions then []
    else
      match scan schema argument with
      | .complete _ =>
        if Shape.of argument = .path then optionArguments schema rest
        else argument :: optionArguments schema rest
      | .failed _ _ => []
      | .waiting _ _ _ =>
        match rest with
        | [] => []
        | value :: rest => argument :: value :: optionArguments schema rest

/-- The options first, then the end of the options, then the paths. -/
def gathered (arguments : List String) : List String :=
  optionArguments schema arguments ++ endOfOptions :: pathArguments arguments

def Token.isOption {Meaning : Type} : Token Meaning → Bool
  | .option _ _ _ => true
  | .path _ => false

def Scan.tokens {Meaning : Type} : Scan Meaning → List (Token Meaning)
  | .complete tokens => tokens
  | .waiting tokens _ _ => tokens
  | .failed tokens _ => tokens

section Reading

variable {Meaning : Type} {schema : Schema Meaning} {argument : String} {rest : List String}

theorem Scan.tokens_after (front : List (Token Meaning)) (scanned : Scan Meaning) :
    (scanned.after front).tokens = front ++ scanned.tokens := by
  cases scanned <;> rfl

theorem scanLong_isOption (argument name : String) (value? : Option String) :
    ∀ token ∈ (scanLong schema argument name value?).tokens, token.isOption = true := by
  unfold scanLong
  split
  · simp [Scan.tokens]
  · split <;> simp [Scan.tokens, Token.isOption]

theorem scanCluster_isOption (names : List Char) :
    ∀ token ∈ (scanCluster schema names).tokens, token.isOption = true := by
  induction names with
  | nil => simp [scanCluster, Scan.tokens]
  | cons name rest ih =>
    unfold scanCluster
    split
    · simp [Scan.tokens]
    · split
      · split <;> simp [Scan.tokens, Token.isOption]
      · rw [Scan.tokens_after]
        exact List.forall_mem_cons.mpr ⟨rfl, ih⟩

theorem scan_path (shape : Shape.of argument = .path) :
    scan schema argument = .complete [.path argument] := by
  rw [scan, shape]

theorem scan_isOption (schema : Schema Meaning) (other : Shape.of argument ≠ .path) :
    ∀ token ∈ (scan schema argument).tokens, token.isOption = true := by
  unfold scan
  split
  · rename_i shape
    exact absurd shape other
  · exact scanLong_isOption _ _ _
  · exact scanCluster_isOption _

/-- The options that were gathered are read as they were between the paths, and leave the options
open. -/
theorem tokenize_optionArguments (arguments : List String)
    (read : (tokenize schema arguments).error? = none) :
    tokenize schema (optionArguments schema arguments) =
        ⟨(tokenize schema arguments).list.filter Token.isOption, none⟩ ∧
      endsOptions schema (optionArguments schema arguments) = false := by
  induction arguments using arguments_induction schema with
  | nil => exact ⟨rfl, rfl⟩
  | ended tail =>
    have none : optionArguments schema (endOfOptions :: tail) = [] := by
      rw [optionArguments.eq_def]
      simp only [beq_self_eq_true, ↓reduceIte]
    rw [none, tokenize_ended]
    refine ⟨?_, rfl⟩
    simp [tokenize, Token.isOption]
  | complete argument rest tokens other scanned ih =>
    rw [tokenize_complete other scanned] at read ⊢
    obtain ⟨same, plain⟩ := ih read
    by_cases shape : Shape.of argument = .path
    · have dropped : optionArguments schema (argument :: rest) = optionArguments schema rest := by
        rw [optionArguments.eq_def]
        simp only [beq_iff_eq, other, ↓reduceIte, scanned, shape]
      rw [scan_path shape] at scanned
      cases scanned
      rw [dropped, same]
      exact ⟨rfl, plain⟩
    · have kept : optionArguments schema (argument :: rest) =
          argument :: optionArguments schema rest := by
        rw [optionArguments.eq_def]
        simp only [beq_iff_eq, other, ↓reduceIte, scanned, shape]
      have options := List.filter_eq_self.mpr (scan_isOption schema shape)
      rw [scanned, Scan.tokens] at options
      rw [kept, tokenize_complete other scanned, endsOptions_complete other scanned, same]
      refine ⟨?_, plain⟩
      simp only [Tokens.after, List.filter_append, options]
  | failed argument rest tokens error other scanned =>
    rw [tokenize_failed other scanned] at read
    cases read
  | missing argument tokens spec written other scanned =>
    rw [tokenize_missing other scanned] at read
    cases read
  | waiting argument value rest tokens spec written other scanned ih =>
    rw [tokenize_waiting other scanned] at read ⊢
    obtain ⟨same, plain⟩ := ih read
    have kept : optionArguments schema (argument :: value :: rest) =
        argument :: value :: optionArguments schema rest := by
      rw [optionArguments.eq_def]
      simp only [beq_iff_eq, other, ↓reduceIte, scanned]
    have shape : Shape.of argument ≠ .path := by
      intro shape
      rw [scan_path shape] at scanned
      cases scanned
    have options := List.filter_eq_self.mpr (scan_isOption schema shape)
    rw [scanned, Scan.tokens] at options
    rw [kept, tokenize_waiting other scanned, endsOptions_waiting other scanned, same]
    refine ⟨?_, plain⟩
    simp only [Tokens.after, List.filter_append, options]
    rfl

end Reading

/-- A command line that can be read is read with the same options and the same paths once its
options are gathered. -/
theorem tokenize_gathered {arguments : List String}
    (read : (tokenize schema arguments).error? = none) :
    tokenize schema (gathered arguments) =
      ⟨(tokenize schema arguments).list.filter Token.isOption ++
        (pathArguments arguments).map .path, none⟩ := by
  obtain ⟨options, plain⟩ := tokenize_optionArguments arguments read
  have success : (tokenize schema (optionArguments schema arguments)).error? = none := by
    rw [options]
  rw [gathered, (read_append _ success plain).1, options, tokenize_ended]
  rfl

theorem Draft.applyTokens_setAside (env : Environment) (error? : Option UsageError) (d : Draft)
    (positionals : List String) (tokens : List (Token Effect)) :
    d.applyTokens env error? positionals tokens =
      d.applyTokens env error? (positionals ++ tokens.filterMap Token.path?)
        (tokens.filter Token.isOption) := by
  induction tokens generalizing d positionals with
  | nil => simp
  | cons token rest ih =>
    cases token with
    | path value =>
      rw [applyTokens, ih]
      simp [Token.path?, Token.isOption]
    | option spec value written =>
      simp only [applyTokens, Token.path?, Token.isOption, List.filterMap_cons, List.filter_cons,
        ↓reduceIte]
      cases spec.meaning.apply env value d with
      | error failure => rfl
      | ok next => simp only [ih next]

theorem filterMap_path?_options (tokens : List (Token Effect)) :
    (tokens.filter Token.isOption).filterMap Token.path? = [] := by
  rw [List.filterMap_eq_nil_iff]
  intro token member
  have option := (List.mem_filter.mp member).2
  cases token with
  | path value => cases option
  | option spec value written => rfl

theorem Draft.applyArguments_gathered (env : Environment) (d : Draft) {arguments : List String}
    (read : (tokenize schema arguments).error? = none) :
    d.applyArguments env (gathered arguments) = d.applyArguments env arguments := by
  have paths (values : List String) :
      (values.map Token.path : List (Token Effect)).filterMap Token.path? = values := by
    rw [List.filterMap_map]
    exact List.filterMap_some
  have noOptions (values : List String) :
      (values.map Token.path : List (Token Effect)).filter Token.isOption = [] := by
    simp [Token.isOption]
  simp only [applyArguments, tokenize_gathered read, read]
  rw [applyTokens_setAside, applyTokens_setAside env none d d.positionals (tokenize _ _).list,
    List.filterMap_append, List.filter_append, filterMap_path?_options, paths, noOptions,
    List.filter_filter]
  simp only [Bool.and_self, List.nil_append, List.append_nil]
  rfl

/-- Where paths stand among the options does not matter: with the options gathered in front of the
end of the options, and the paths behind it, the same tokens are read, the same lines are logged,
and the outcome is the same, the text of the command line apart. -/
theorem build_gathered (env : Environment) (interactive : Bool) {arguments : List String}
    (read : (tokenize schema arguments).error? = none) :
    tokenize schema (gathered arguments) =
        ⟨(tokenize schema arguments).list.filter Token.isOption ++
          (pathArguments arguments).map .path, none⟩ ∧
      (build env interactive (gathered arguments)).log = (build env interactive arguments).log ∧
      (build env interactive (gathered arguments)).outcome =
        (build env interactive arguments).outcome.map
          (·.withCommandLine (commandText (gathered arguments))) := by
  refine ⟨tokenize_gathered read, ?_⟩
  rw [build_eq_closed env interactive arguments (gathered arguments),
    Draft.applyArguments_gathered env _ read]
  exact ⟨rfl, rfl⟩

def scatteredArguments : List String :=
  ["/music", "-vT", "df,+zz", "-", "-S", "--", "//", "--size=1-2", "--", "-v"]

theorem build_gathered_scatteredArguments :
    (tokenize schema scatteredArguments).error? = none ∧
      gathered scatteredArguments =
        ["-vT", "df,+zz", "-S", "--", "--size=1-2", "--", "/music", "-", "//", "-v"] ∧
      ∃ config, (build .directories true scatteredArguments).outcome = .ok config ∧
        (build .directories true (gathered scatteredArguments)).outcome =
          .ok (config.withCommandLine (commandText (gathered scatteredArguments))) := by
  have read : (tokenize schema scatteredArguments).error? = none := by decide +kernel
  have success : (build .directories true scatteredArguments).outcome.isOk = true := by
    decide +kernel
  obtain ⟨config, made⟩ := eq_ok_of_isOk success
  have same := (build_gathered .directories true read).2.2
  rw [made] at same
  exact ⟨read, by decide +kernel, config, made, same⟩

end ScanSetup
