import ScanSetup.Proofs.Draft.Footprint
import ScanSetup.Proofs.Run.History

set_option autoImplicit false

namespace ScanSetup

open Options

def Run.map {α β : Type} (f : α → β) (run : Run α) : Run β := ⟨run.log, run.outcome.map f⟩

def commandText (arguments : List String) : String :=
  " ".intercalate (Draft.programName :: arguments)

def Configuration.withCommandLine (c : Configuration) (text : String) : Configuration :=
  { c with settings := { c.settings with commandLine := text } }

namespace Draft

def withCommandLine (d : Draft) (text : String) : Draft := d.update ({ · with commandLine := text })

variable {d : Draft} {env : Environment} {interactive : Bool} {text : String}

theorem get_withCommandLine {field : Field} (other : field ≠ .commandLine) :
    (d.withCommandLine text).get field = d.get field := by
  cases field <;> first | rfl | exact absurd rfl other

theorem commandLine_not_read (effect : Effect) : Field.commandLine ∉ effect.reads := by
  cases effect <;> simp [Effect.reads, Effect.writes]

theorem apply_withCommandLine (effect : Effect) (env : Environment) (value : String) (d : Draft)
    (text : String) :
    effect.apply env value (d.withCommandLine text) =
      (effect.apply env value d).map (·.withCommandLine text) := by
  have read : effect.reads ⊆ Field.commandLine.others := fun field member =>
    Field.mem_others.mpr fun same => commandLine_not_read effect (same ▸ member)
  have agree : AgreeOn Field.commandLine.others d (d.withCommandLine text) := fun field member =>
    (get_withCommandLine (Field.mem_others.mp member)).symm
  have alike : Parallel Field.commandLine.others d (d.withCommandLine text)
      (effect.apply env value d) (effect.apply env value (d.withCommandLine text)) :=
    apply_parallel_of_subset read agree
  have unwritten : Field.commandLine ∉ effect.writes := fun member =>
    commandLine_not_read effect (List.mem_cons_of_mem _ member)
  cases one : effect.apply env value d with
  | error failure =>
    rw [one] at alike
    exact alike.of_error
  | ok next =>
    rw [one] at alike
    obtain ⟨last, noted, other, same, firstNotices, secondNotices⟩ := alike.of_ok
    rw [other]
    refine congrArg Except.ok (eq_of_get (fun field => ?_) (secondNotices.trans firstNotices.symm))
    by_cases here : field = .commandLine
    · subst here
      exact (change_of_apply other).get_eq unwritten
    · rw [get_withCommandLine here]
      exact (same field (Field.mem_others.mpr here)).symm

theorem applyTokens_withCommandLine (env : Environment) (error? : Option UsageError) (d : Draft)
    (text : String) (positionals : List String) (tokens : List (Token Effect)) :
    (d.withCommandLine text).applyTokens env error? positionals tokens =
      (d.applyTokens env error? positionals tokens).map (·.withCommandLine text) := by
  induction tokens generalizing d positionals with
  | nil => cases error? <;> rfl
  | cons token rest ih =>
    cases token with
    | path value => exact ih d _
    | option spec value written =>
      simp only [applyTokens, apply_withCommandLine]
      cases spec.meaning.apply env value d with
      | error failure => rfl
      | ok next =>
        simp only [Except.map, ih next]
        rfl

/-- A change that no rule about several fields notices comes through the check of the rules. -/
theorem checked_map {change : Configuration → Configuration} {c : Configuration}
    (rules : (change c).brokenRule? = c.brokenRule?) :
    (change c).checked = c.checked.map change := by
  simp only [Configuration.checked, rules]
  cases c.brokenRule? <;> rfl

/-- A change of the configuration that the closing checks do not notice comes through to the end. -/
theorem close_map {other : Draft} {shown : Bool} (change : Configuration → Configuration)
    (calm : other.conflict? = d.conflict?) (fallback : other.fallback env = d.fallback env)
    (positionals : other.positionals = d.positionals) (settled : other.sinks = d.sinks)
    (made : ∀ paths sinks, other.configuration shown paths sinks =
      change (d.configuration interactive paths sinks))
    (rules : ∀ c, (change c).brokenRule? = c.brokenRule?) :
    other.close env shown =
      (d.close env interactive).map fun closed => (change closed.1, closed.2) := by
  simp only [close, calm, fallback, positionals, settled, made, checked_map (rules _)]
  cases d.conflict? with
  | some error => rfl
  | none =>
    cases PathList.collect env.access env.stdin (d.fallback env) d.positionals with
    | error notices => rfl
    | ok list =>
      cases d.sinks with
      | error error => rfl
      | ok sinks =>
        dsimp only
        cases (d.configuration interactive list.entries sinks).checked <;> rfl

theorem close_withCommandLine (d : Draft) (env : Environment) (interactive : Bool)
    (text : String) :
    (d.withCommandLine text).close env interactive =
      (d.close env interactive).map fun closed => (closed.1.withCommandLine text, closed.2) :=
  close_map (·.withCommandLine text) rfl rfl rfl rfl (fun _ _ => rfl) fun _ => rfl

variable {a b : Draft} {fields : List Field}

theorem AgreeOn.withPositionals (agree : AgreeOn fields a b) (paths : List String) :
    AgreeOn fields (a.withPositionals paths) (b.withPositionals paths) := by
  intro field member
  have same := agree field member
  cases field <;> first | exact same | rfl

/-- The end of a draft depends on its fields alone, and not on the reference time. -/
theorem close_eq_of_timeless (agree : AgreeOn Field.referenceTime.others a b) (interactive : Bool) :
    a.close env interactive = b.close env interactive := by
  have same : b = { a with referenceTime := b.referenceTime, notices := b.notices } := by
    refine eq_of_get (fun field => ?_) rfl
    by_cases time : field = .referenceTime
    · subst time
      rfl
    · rw [← agree field (Field.mem_others.mpr time)]
      cases field <;> first | rfl | exact absurd rfl time
  rw [same]
  rfl

theorem close_eq_of_agree (agree : AgreeOn Field.all a b) (interactive : Bool) :
    a.close env interactive = b.close env interactive :=
  close_eq_of_timeless (agree.mono fun field _ => field.mem_all) interactive

end Draft

/-- The end of a run: its draft becomes a configuration, and what that leaves is reported. -/
def Run.closed (env : Environment) (interactive : Bool) (run : Run Draft) : Run Configuration :=
  match run.outcome with
  | .error failure => ⟨run.log, .error failure⟩
  | .ok draft =>
    match draft.close env interactive with
    | .ok (config, notices) => ⟨run.log ++ warnings config.verbosity notices, .ok config⟩
    | .error failure =>
      let notices :=
        match failure with
        | .config (.noValidPaths notices) => notices
        | _ => []
      ⟨run.log ++ warnings draft.verbosity notices, .error failure⟩

variable {env : Environment} {interactive : Bool} {arguments : List String}

theorem closed_withCommandLine (run : Run Draft) (text : String) :
    (run.map (·.withCommandLine text)).closed env interactive =
      (run.closed env interactive).map (·.withCommandLine text) := by
  cases run with
  | mk log outcome =>
    cases outcome with
    | error failure => rfl
    | ok draft =>
      simp only [Run.closed, Run.map, Except.map, Draft.close_withCommandLine]
      cases draft.close env interactive with
      | error failure => rfl
      | ok closed => rfl

/-- A run, started from the draft of another command line. -/
theorem build_eq_closed (env : Environment) (interactive : Bool)
    (given arguments : List String) :
    build env interactive arguments =
      (((Draft.initial given env.now env.workingDirectory).applyArguments env arguments).closed env
        interactive).map (·.withCommandLine (commandText arguments)) := by
  have started : Draft.initial arguments env.now env.workingDirectory =
      (Draft.initial given env.now env.workingDirectory).withCommandLine (commandText arguments) :=
    rfl
  have applied := Draft.applyTokens_withCommandLine env (tokenize schema arguments).error?
    (Draft.initial given env.now env.workingDirectory) (commandText arguments) []
    (tokenize schema arguments).list
  calc build env interactive arguments
      = ((Draft.initial arguments env.now env.workingDirectory).applyArguments env
          arguments).closed env interactive := rfl
    _ = (((Draft.initial given env.now env.workingDirectory).applyArguments env arguments).map
          (·.withCommandLine (commandText arguments))).closed env interactive := by
        rw [started]
        exact congrArg (Run.closed env interactive) applied
    _ = _ := closed_withCommandLine _ _

end ScanSetup
