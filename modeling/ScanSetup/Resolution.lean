import ScanSetup.Closing
import ScanSetup.Options.Table
import ScanSetup.Token

set_option autoImplicit false

namespace ScanSetup

open Text Options

inductive LogEntry
  | warning (text : String)
  | trace (text : String)
  | failure (text : String)
  deriving DecidableEq, Repr

/-- The result of a run, and what it reported before it ended. -/
structure Run (α : Type) where
  log : List LogEntry
  outcome : Except Failure α

def traceText {Meaning : Type} (spec : Spec Meaning) (value : String) : String :=
  if spec.takesValue then "option=--" ++ spec.long ++ " value=" ++ quoted value
  else "option=--" ++ spec.long

/-- Notices as warnings, if the level shows them. -/
def warnings (verbosity : Verbosity) (notices : List String) : List LogEntry :=
  if verbosity.showsWarnings then notices.map .warning else []

namespace Draft

/-- What is reported after an option that changed `before` into `after`: a trace of the option,
and the notices it left. -/
def report {Meaning : Type} (before after : Draft) (spec : Spec Meaning) (value : String) :
    List LogEntry :=
  (if after.verbosity = .debug then [.trace (traceText spec value)] else []) ++
    warnings after.verbosity (after.notices.drop before.notices.length)

/-- Applies tokens in order. `error?` is what stopped the reading of tokens behind them. Paths are
kept aside until the end. -/
def applyTokens (env : Environment) (error? : Option UsageError) (d : Draft)
    (positionals : List String) : List (Token Effect) → Run Draft
  | [] =>
    match error? with
    | none => ⟨[], .ok { d with positionals := positionals }⟩
    | some error => ⟨[], .error (.config (.usage error))⟩
  | .path value :: rest => applyTokens env error? d (positionals ++ [value]) rest
  | .option spec value _ :: rest =>
    match spec.meaning.apply env value d with
    | .error failure => ⟨[], .error failure⟩
    | .ok next =>
      let run := applyTokens env error? next positionals rest
      { run with log := d.report next spec value ++ run.log }

def applyArguments (env : Environment) (d : Draft) (arguments : List String) : Run Draft :=
  let tokens := tokenize schema arguments
  applyTokens env tokens.error? d d.positionals tokens.list

end Draft

/-- Resolves a command line into a configuration. -/
def build (env : Environment) (interactive : Bool) (arguments : List String) :
    Run Configuration :=
  let run := (Draft.initial arguments env.now env.workingDirectory).applyArguments env arguments
  match run.outcome with
  | .error failure => ⟨run.log, .error failure⟩
  | .ok draft =>
    match draft.close env interactive with
    | .ok (config, notices) => ⟨run.log ++ warnings config.verbosity notices, .ok config⟩
    | .error failure =>
      let notices :=
        match failure with
        | .config (.noValidPaths notices) => notices
        | _ => []
      ⟨run.log ++ warnings draft.verbosity notices, .error failure⟩

end ScanSetup
