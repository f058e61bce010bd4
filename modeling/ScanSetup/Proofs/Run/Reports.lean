import ScanSetup.Proofs.Run.Build
import ScanSetup.Proofs.Run.History
import Mathlib.Tactic.SplitIfs

set_option autoImplicit false

namespace ScanSetup

open Options

/-- The place on the ladder of levels that a counter stands for. Counters beyond its ends stand for
the last level there. -/
def Verbosity.place (count : Int) : Nat := (limit critical.rank debug.rank count).toNat

theorem Verbosity.rank_ofCount (count : Int) : (ofCount count).rank = place count := by
  unfold ofCount
  split_ifs <;> simp only [rank, place, limit] <;> omega

/-- An option as it is given on a command line. -/
structure Given where
  spec : Spec Effect
  value : String

/-- An option that was applied, and the notices that it has appended. -/
structure Step extends Given where
  noted : List String

def Token.given? : Token Effect → Option Given
  | .option spec value _ => some ⟨spec, value⟩
  | .path _ => none

def givenOptions (arguments : List String) : List Given :=
  (tokenize schema arguments).list.filterMap Token.given?

/-- The number of `-v` less the number of `-V`. -/
def loudness (steps : List Step) : Int :=
  steps.countP (·.spec.long == "loud") - steps.countP (·.spec.long == "quiet")

/-- What a step reports if the level behind it has this place on the ladder. -/
def Step.lines (step : Step) (place : Nat) : List LogEntry :=
  (if place = Verbosity.debug.rank then [.trace (traceText step.spec step.value)] else []) ++
    if Verbosity.warning.rank ≤ place then step.noted.map .warning else []

/-- The place of the level behind steps that start with the counter at `count`. -/
def placeAfter (count : Int) (steps : List Step) : Nat := Verbosity.place (count + loudness steps)

/-- What steps report one after the other, each under the level behind it. -/
def reports (count : Int) (steps : List Step) : List LogEntry :=
  (steps.mapIdx fun i step => step.lines (placeAfter count (steps.take (i + 1)))).flatten

def LogEntry.warning? : LogEntry → Option String
  | .warning text => some text
  | _ => none

def loggedWarnings (log : List LogEntry) : List String := log.filterMap LogEntry.warning?

namespace Draft

/-- Options that can be applied one after the other. Each appends its notices to those before. -/
inductive Passes (env : Environment) : Draft → List Step → Draft → Prop
  | start (d : Draft) : Passes env d [] d
  | step {d next last : Draft} {step : Step} {rest : List Step}
      (applied : step.spec.meaning.apply env step.value d = .ok next)
      (appended : next.notices = d.notices ++ step.noted)
      (later : Passes env next rest last) : Passes env d (step :: rest) last

variable {env : Environment} {d last : Draft} {steps : List Step}

/-- How a run goes on behind the options that were applied: an option fails, the arguments could not
be read any further, or the run is at its end. -/
inductive Stops (env : Environment) (error? : Option UsageError) (last : Draft)
    (paths : List String) : List Given → Except Failure Draft → Prop
  | failed {given : Given} {rest : List Given} {failure : Failure}
      (rejected : given.spec.meaning.apply env given.value last = .error failure) :
      Stops env error? last paths (given :: rest) (.error failure)
  | unread {error : UsageError} (unread : error? = some error) :
      Stops env error? last paths [] (.error (.config (.usage error)))
  | ended (read : error? = none) : Stops env error? last paths [] (.ok (last.withPositionals paths))

theorem Passes.notices_eq (passes : d.Passes env steps last) :
    last.notices = d.notices ++ steps.flatMap (·.noted) := by
  induction passes with
  | start d => exact (List.append_nil _).symm
  | step applied appended later ih =>
    rw [ih, appended, List.flatMap_cons, List.append_assoc]

end Draft

section

variable {step : Step} {steps rest : List Step} {count : Int}

theorem loudness_cons : loudness (step :: rest) = loudness [step] + loudness rest := by
  simp only [loudness, List.countP_cons, List.countP_nil]
  omega

theorem placeAfter_cons :
    placeAfter count (step :: rest) = placeAfter (count + loudness [step]) rest := by
  rw [placeAfter, placeAfter, loudness_cons, Int.add_assoc]

theorem reports_cons :
    reports count (step :: rest) =
      step.lines (placeAfter count [step]) ++ reports (count + loudness [step]) rest := by
  have later : ∀ i, placeAfter count (step :: rest.take (i + 1)) =
      placeAfter (count + loudness [step]) (rest.take (i + 1)) := fun i => placeAfter_cons
  simp only [reports, List.mapIdx_cons, List.flatten_cons, List.take_succ_cons, List.take_zero,
    later]

end

theorem loudness_singleton {step : Step} (known : step.spec ∈ table) :
    loudness [step] = step.spec.meaning.louder := by
  have loud : step.spec.long = "loud" ↔ step.spec.meaning = .verbosity 1 := long_eq_iff rfl known
  have quiet : step.spec.long = "quiet" ↔ step.spec.meaning = .verbosity (-1) :=
    long_eq_iff rfl known
  have named := names?_of_mem step.spec known
  simp only [loudness, List.countP_singleton, beq_iff_eq, loud, quiet]
  cases meaning : step.spec.meaning with
  | verbosity delta =>
    rw [meaning] at named
    unfold Effect.names? at named
    split at named <;> simp_all [Effect.louder]
  | _ => simp [Effect.louder]

theorem Draft.report_eq_lines (step : Step) (before after : Draft)
    (appended : after.notices = before.notices ++ step.noted) :
    before.report after step.spec step.value = step.lines after.verbosity.rank := by
  have debugging : after.verbosity = .debug ↔ after.verbosity.rank = Verbosity.debug.rank := by
    cases after.verbosity <;> decide
  simp only [Draft.report, Step.lines, debugging, warnings, Verbosity.showsWarnings, appended,
    List.drop_left, decide_eq_true_eq]

theorem Step.loggedWarnings_lines (step : Step) {place : Nat}
    (shown : Verbosity.warning.rank ≤ place) : loggedWarnings (step.lines place) = step.noted := by
  have traced : loggedWarnings
      (if place = Verbosity.debug.rank then [.trace (traceText step.spec step.value)] else []) =
        [] := by
    split <;> rfl
  have warned : loggedWarnings (step.noted.map .warning) = step.noted := by
    simp [loggedWarnings, List.filterMap_map, Function.comp_def, LogEntry.warning?]
  rw [Step.lines, if_pos shown, loggedWarnings, List.filterMap_append]
  rw [loggedWarnings] at traced warned
  rw [traced, warned, List.nil_append]

theorem loggedWarnings_reports {steps : List Step} {count : Int}
    (shown : ∀ i < steps.length,
      Verbosity.warning.rank ≤ placeAfter count (steps.take (i + 1))) :
    loggedWarnings (reports count steps) = steps.flatMap (·.noted) := by
  induction steps generalizing count with
  | nil => rfl
  | cons step rest ih =>
    have here : Verbosity.warning.rank ≤ placeAfter count [step] := shown 0 (Nat.succ_pos _)
    have later : ∀ i < rest.length,
        Verbosity.warning.rank ≤ placeAfter (count + loudness [step]) (rest.take (i + 1)) := by
      intro i inside
      rw [← placeAfter_cons]
      exact shown (i + 1) (Nat.succ_lt_succ inside)
    rw [reports_cons, loggedWarnings, List.filterMap_append, List.flatMap_cons]
    exact congrArg₂ (· ++ ·) (step.loggedWarnings_lines here) (ih later)

/-- Applying tokens passes through the options in front of the first one that fails, and reports
these alone. -/
theorem applyTokens_reports (env : Environment) (error? : Option UsageError) (d : Draft)
    (paths : List String) (tokens : List (Token Effect))
    (known : ∀ token ∈ tokens, token.From schema fun _ => True) :
    ∃ steps last rest, d.Passes env steps last ∧
      tokens.filterMap Token.given? = steps.map (·.toGiven) ++ rest ∧
      last.Stops env error? (paths ++ tokens.filterMap Token.path?) rest
        (d.applyTokens env error? paths tokens).outcome ∧
      (d.applyTokens env error? paths tokens).log = reports d.verbosityCount steps := by
  -- The draft moves with each option, and with it the counter that the levels start from.
  induction tokens generalizing d paths with
  | nil =>
    refine ⟨[], d, [], .start d, rfl, ?_, ?_⟩
    · simp only [List.filterMap_nil, List.append_nil]
      cases error? with
      | none => exact .ended rfl
      | some error => exact .unread rfl
    · cases error? <;> rfl
  | cons token tail ih =>
    obtain ⟨here, later⟩ := List.forall_mem_cons.mp known
    cases token with
    | path value =>
      obtain ⟨steps, last, rest, passes, given, stops, log⟩ := ih d (paths ++ [value]) later
      refine ⟨steps, last, rest, passes, given, ?_, log⟩
      simpa [Draft.applyTokens, Token.path?] using stops
    | option spec value written =>
      cases applied : spec.meaning.apply env value d with
      | error failure =>
        refine ⟨[], d, _, .start d, rfl, ?_, ?_⟩
        · simp only [Draft.applyTokens, applied]
          exact .failed applied
        · simp only [Draft.applyTokens, applied]
          rfl
      | ok next =>
        have change := Draft.change_of_apply applied
        obtain ⟨noted, appended⟩ := change.notices_append
        obtain ⟨steps, last, rest, passes, given, stops, log⟩ := ih next paths later
        let step : Step := ⟨⟨spec, value⟩, noted⟩
        have count : next.verbosityCount = d.verbosityCount + loudness [step] := by
          rw [loudness_singleton here.1]
          exact change.verbosityCount_eq
        have level : next.verbosity.rank = placeAfter d.verbosityCount [step] := by
          rw [Draft.verbosity, Verbosity.rank_ofCount, count]
          rfl
        refine ⟨step :: steps, last, rest, .step applied appended passes, ?_, ?_, ?_⟩
        · exact congrArg (List.cons _) given
        · simpa only [Draft.applyTokens, applied, List.filterMap_cons, Token.path?] using stops
        · simp only [Draft.applyTokens, applied]
          rw [reports_cons, ← level, ← Draft.report_eq_lines step d next appended, log, count]

/-- The log of a run, line by line: each option that is applied is followed by its trace if the
level behind it is that of traces, and by the notices that it has appended if the level shows
warnings. An option that fails, and whatever stands behind it, logs nothing. Notices are never
dropped from a draft; where no level hides warnings, each one is logged once, in order. -/
theorem applyArguments_log (env : Environment) (d : Draft) (arguments : List String) :
    let run := d.applyArguments env arguments
    ∃ steps last rest, d.Passes env steps last ∧
      givenOptions arguments = steps.map (·.toGiven) ++ rest ∧
      last.Stops env (tokenize schema arguments).error? (d.positionals ++ pathArguments arguments)
        rest run.outcome ∧
      run.log = reports d.verbosityCount steps ∧
      last.notices = d.notices ++ steps.flatMap (·.noted) ∧
      ((∀ i < steps.length, Verbosity.warning.rank ≤
          placeAfter d.verbosityCount (steps.take (i + 1))) →
        loggedWarnings run.log = steps.flatMap (·.noted)) := by
  obtain ⟨steps, last, rest, passes, given, stops, log⟩ :=
    applyTokens_reports env (tokenize schema arguments).error? d d.positionals
      (tokenize schema arguments).list
      (tokenize_from schema fun _ _ _ _ => trivial)
  refine ⟨steps, last, rest, passes, given, stops, log, passes.notices_eq, ?_⟩
  intro shown
  rw [Draft.applyArguments, log, loggedWarnings_reports shown]

/-- The level behind an option decides about its own lines: the second `-v` is traced, and the last
malformed override is not warned about. -/
example :
    ((Draft.initial [] Environment.directories.now "/").applyArguments .directories
      ["-c", "x", "-vv", "-c", "y", "-VV", "-V", "-c", "z"]).log =
      [.warning (OverrideFault.noFormatter.message "x"), .trace "option=--loud",
        .trace "option=--config value='y'", .warning (OverrideFault.noFormatter.message "y")] := by
  decide +kernel

end ScanSetup
