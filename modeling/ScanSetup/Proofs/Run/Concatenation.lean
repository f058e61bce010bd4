import ScanSetup.Proofs.Draft.Positionals
import ScanSetup.Proofs.Token.Concatenation
import ScanSetup.Resolution

set_option autoImplicit false

namespace ScanSetup

open Options

/-- What is run after a result, with both logs. -/
def Run.andThen {α β : Type} (first : Run α) (next : α → Run β) : Run β :=
  match first.outcome with
  | .error failure => ⟨first.log, .error failure⟩
  | .ok a => { next a with log := first.log ++ (next a).log }

theorem Run.andThen_of_ok {α β : Type} {first : Run α} {a : α} (success : first.outcome = .ok a)
    (next : α → Run β) : first.andThen next = { next a with log := first.log ++ (next a).log } := by
  simp only [andThen, success]

theorem Run.andThen_of_error {α : Type} {first : Run α} {failure : Failure}
    (failed : first.outcome = .error failure) (next : α → Run α) : first.andThen next = first := by
  cases first with
  | mk log outcome =>
    cases failed
    rfl

namespace Draft

variable {d middle : Draft} {env : Environment} {failure : Failure}

/-- The paths of a draft do not matter to the tokens: they are replaced at the end. -/
theorem applyTokens_frame (env : Environment) (error? : Option UsageError) (d : Draft)
    (paths positionals : List String) (tokens : List (Token Effect)) :
    (d.withPositionals paths).applyTokens env error? positionals tokens =
      d.applyTokens env error? positionals tokens := by
  induction tokens generalizing d positionals with
  | nil => rfl
  | cons token rest ih =>
    cases token with
    | path value => exact ih d _
    | option spec value written =>
      simp only [applyTokens, Effect.apply_frame]
      cases spec.meaning.apply env value d with
      | error failure => rfl
      | ok next =>
        simp only [relocate, Except.map, ih next]
        rfl

theorem applyTokens_append (env : Environment) (error? : Option UsageError) (d : Draft)
    (positionals : List String) (front back : List (Token Effect)) :
    d.applyTokens env error? positionals (front ++ back) =
      (d.applyTokens env none positionals front).andThen fun middle =>
        middle.applyTokens env error? middle.positionals back := by
  induction front generalizing d positionals with
  | nil =>
    -- The paths that were kept aside are now those of the draft that the rest starts from.
    exact (applyTokens_frame env error? d positionals positionals back).symm
  | cons token rest ih =>
    cases token with
    | path value => exact ih d _
    | option spec value written =>
      simp only [List.cons_append, applyTokens]
      cases spec.meaning.apply env value d with
      | error failure => rfl
      | ok next =>
        simp only [ih next, Run.andThen]
        cases (next.applyTokens env none positionals rest).outcome with
        | error failure => rfl
        | ok middle => simp only [List.append_assoc]

theorem applyTokens_error (env : Environment) (error : UsageError) (d : Draft)
    (positionals : List String) (tokens : List (Token Effect)) :
    ∃ failure, (d.applyTokens env (some error) positionals tokens).outcome = .error failure := by
  induction tokens generalizing d positionals with
  | nil => exact ⟨_, rfl⟩
  | cons token rest ih =>
    cases token with
    | path value => exact ih d _
    | option spec value written =>
      unfold applyTokens
      split
      · exact ⟨_, rfl⟩
      · exact ih _ _

theorem error?_of_applied {arguments : List String}
    (success : (d.applyArguments env arguments).outcome = .ok middle) :
    (tokenize schema arguments).error? = none := by
  cases found : (tokenize schema arguments).error? with
  | none => rfl
  | some error =>
    obtain ⟨failure, failed⟩ :=
      applyTokens_error env error d d.positionals (tokenize schema arguments).list
    simp only [applyArguments, found, failed] at success
    cases success

theorem applyArguments_append (env : Environment) (d : Draft) {front : List String}
    (back : List String) (read : (tokenize schema front).error? = none)
    (plain : endsOptions schema front = false) :
    d.applyArguments env (front ++ back) =
      (d.applyArguments env front).andThen fun middle => middle.applyArguments env back := by
  have tokens := (read_append back read plain).1
  simp only [applyArguments, tokens, read, Tokens.after]
  exact applyTokens_append env _ d d.positionals _ _

theorem applyTokens_paths (env : Environment) (d : Draft) (positionals paths : List String) :
    d.applyTokens env none positionals (paths.map .path) =
      ⟨[], .ok (d.withPositionals (positionals ++ paths))⟩ := by
  induction paths generalizing positionals with
  | nil =>
    rw [List.append_nil]
    rfl
  | cons path rest ih =>
    rw [List.map_cons, applyTokens, ih, List.append_assoc]
    rfl

theorem applyArguments_ended (env : Environment) (d : Draft) (tail : List String) :
    (d.applyArguments env (endOfOptions :: tail)).outcome =
      .ok (d.withPositionals (d.positionals ++ tail)) := by
  simp only [applyArguments, tokenize_ended, applyTokens_paths]

/-- A run fails at one argument: those in front of it are applied, and then the argument fails, read
with no more than the value it waits for. -/
def FailsAt (env : Environment) (d : Draft) (front : List String) (argument : String)
    (rest : List String) (failure : Failure) : Prop :=
  endsOptions schema front = false ∧
    ∃ middle, (d.applyArguments env front).outcome = .ok middle ∧
      (middle.applyArguments env ((argument :: rest).take (scan schema argument).width)).outcome =
        .error failure

theorem FailsAt.prepend {unit front rest : List String} {argument : String}
    (plain : endsOptions schema unit = false)
    (applied : (d.applyArguments env unit).outcome = .ok middle)
    (later : FailsAt env middle front argument rest failure) :
    FailsAt env d (unit ++ front) argument rest failure := by
  obtain ⟨plainLater, last, appliedLater, failed⟩ := later
  have read := error?_of_applied applied
  refine ⟨?_, last, ?_, failed⟩
  · rw [(read_append front read plain).2]
    exact plainLater
  · rw [applyArguments_append env d front read plain, Run.andThen_of_ok applied]
    exact appliedLater

theorem applyArguments_append_error_iff {unit : List String} (rest : List String)
    (read : (tokenize schema unit).error? = none) (plain : endsOptions schema unit = false) :
    (d.applyArguments env (unit ++ rest)).outcome = .error failure ↔
      (d.applyArguments env unit).outcome = .error failure ∨
      ∃ middle, (d.applyArguments env unit).outcome = .ok middle ∧
        (middle.applyArguments env rest).outcome = .error failure := by
  rw [applyArguments_append env d rest read plain]
  cases applied : (d.applyArguments env unit).outcome with
  | error other =>
    rw [Run.andThen_of_error applied, applied]
    simp
  | ok middle =>
    rw [Run.andThen_of_ok applied]
    simp

theorem exists_failsAt {arguments : List String}
    (failed : (d.applyArguments env arguments).outcome = .error failure) :
    ∃ front argument rest, arguments = front ++ argument :: rest ∧
      FailsAt env d front argument rest failure := by
  -- Where the first argument does not fail, the rest fails from the draft that it leaves.
  induction arguments using arguments_induction schema generalizing d with
  | nil => cases failed
  | ended tail =>
    rw [applyArguments_ended] at failed
    cases failed
  | complete argument rest tokens other scanned ih =>
    obtain ⟨read, plain⟩ := read_complete other scanned
    rcases (applyArguments_append_error_iff rest read plain).mp failed with
      here | ⟨middle, applied, later⟩
    · refine ⟨[], argument, rest, rfl, rfl, d, rfl, ?_⟩
      rw [scanned]
      exact here
    · obtain ⟨front, last, others, rfl, fails⟩ := ih later
      exact ⟨[argument] ++ front, last, others, rfl, fails.prepend plain applied⟩
  | failed argument rest tokens error other scanned =>
    refine ⟨[], argument, rest, rfl, rfl, d, rfl, ?_⟩
    simp only [applyArguments, tokenize_failed other scanned] at failed
    simp only [scanned, Scan.width, List.take_succ_cons, applyArguments,
      tokenize_failed other scanned]
    exact failed
  | missing argument tokens spec written other scanned =>
    refine ⟨[], argument, [], rfl, rfl, d, rfl, ?_⟩
    rw [scanned]
    exact failed
  | waiting argument value rest tokens spec written other scanned ih =>
    obtain ⟨read, plain⟩ := read_waiting other scanned value
    rcases (applyArguments_append_error_iff rest read plain).mp failed with
      here | ⟨middle, applied, later⟩
    · refine ⟨[], argument, value :: rest, rfl, rfl, d, rfl, ?_⟩
      rw [scanned]
      exact here
    · obtain ⟨front, last, others, rfl, fails⟩ := ih later
      exact ⟨[argument, value] ++ front, last, others, rfl, fails.prepend plain applied⟩

/-- An argument that fails makes the whole run fail, whatever comes behind it. -/
theorem applyArguments_of_failing {argument : String} {rest : List String}
    (failed : (d.applyArguments env
      ((argument :: rest).take (scan schema argument).width)).outcome = .error failure) :
    (d.applyArguments env (argument :: rest)).outcome = .error failure := by
  by_cases ended : argument = endOfOptions
  · subst ended
    have opens : ∃ tail, (endOfOptions :: rest).take (scan schema endOfOptions).width =
        endOfOptions :: tail := by
      cases scan schema endOfOptions <;> exact ⟨_, rfl⟩
    obtain ⟨tail, opens⟩ := opens
    rw [opens, applyArguments_ended] at failed
    cases failed
  · cases scanned : scan schema argument with
    | complete tokens =>
      obtain ⟨read, plain⟩ := read_complete ended scanned
      rw [scanned] at failed
      exact (applyArguments_append_error_iff rest read plain).mpr (Or.inl failed)
    | failed tokens error =>
      simp only [scanned, Scan.width, List.take_succ_cons, applyArguments,
        tokenize_failed ended scanned] at failed
      simp only [applyArguments, tokenize_failed ended scanned]
      exact failed
    | waiting tokens spec written =>
      rw [scanned] at failed
      cases rest with
      | nil => exact failed
      | cons value rest =>
        obtain ⟨read, plain⟩ := read_waiting ended scanned value
        exact (applyArguments_append_error_iff rest read plain).mpr (Or.inl failed)

/-- Applying arguments behind others that do not end the options leaves the same draft, or the same
failure, as applying them to what the others leave, and the log of the others comes first. A run
fails exactly at the first argument that fails in its turn. -/
theorem applyArguments_concatenation (env : Environment) (d : Draft) :
    (∀ front back middle, (d.applyArguments env front).outcome = .ok middle →
      endsOptions schema front = false →
      (d.applyArguments env (front ++ back)).outcome = (middle.applyArguments env back).outcome ∧
        (d.applyArguments env (front ++ back)).log =
          (d.applyArguments env front).log ++ (middle.applyArguments env back).log) ∧
    ∀ arguments failure, (d.applyArguments env arguments).outcome = .error failure ↔
      ∃ front argument rest, arguments = front ++ argument :: rest ∧
        FailsAt env d front argument rest failure := by
  have law : ∀ front back middle, (d.applyArguments env front).outcome = .ok middle →
      endsOptions schema front = false →
      d.applyArguments env (front ++ back) =
        { middle.applyArguments env back with
          log := (d.applyArguments env front).log ++ (middle.applyArguments env back).log } := by
    intro front back middle applied plain
    rw [applyArguments_append env d back (error?_of_applied applied) plain]
    exact Run.andThen_of_ok applied _
  constructor
  · intro front back middle applied plain
    rw [law front back middle applied plain]
    exact ⟨rfl, rfl⟩
  · intro arguments failure
    constructor
    · exact exists_failsAt
    · rintro ⟨front, argument, rest, rfl, plain, middle, applied, failed⟩
      rw [law front (argument :: rest) middle applied plain]
      exact applyArguments_of_failing failed

def noticedArguments : List String := ["-vT", "df,+zz", "/music", "-S", "--"]

def malformedArguments : List String := ["-g", "--threads=many", "--unknown"]

/-- The draft before any argument, in a world without files. -/
def atRoot : Draft := .initial [] Number.Binary64.zero "/"

end Draft

/-- A world in which no path names anything. -/
def Environment.empty : Environment where
  workingDirectory := "/"
  lookup _ := .error (.system .noEntry)
  stdin := ""
  now := Number.Binary64.zero
  outputIsTerminal := false
  errorIsTerminal := false

namespace Draft

theorem applyArguments_malformedArguments :
    endsOptions schema noticedArguments = false ∧
      ∃ middle, (atRoot.applyArguments .empty noticedArguments).outcome = .ok middle ∧
        (atRoot.applyArguments .empty (noticedArguments ++ malformedArguments)).outcome =
          (middle.applyArguments .empty malformedArguments).outcome ∧
        ∃ failure front argument rest,
          noticedArguments ++ malformedArguments = front ++ argument :: rest ∧
            FailsAt .empty atRoot front argument rest failure := by
  have plain : endsOptions schema noticedArguments = false := by decide +kernel
  have applied : (atRoot.applyArguments .empty noticedArguments).outcome.isOk = true := by
    decide +kernel
  have fails :
      (atRoot.applyArguments .empty (noticedArguments ++ malformedArguments)).outcome.isOk =
        false := by
    decide +kernel
  obtain ⟨law, position⟩ := applyArguments_concatenation .empty atRoot
  refine ⟨plain, ?_⟩
  cases first : (atRoot.applyArguments .empty noticedArguments).outcome with
  | error failure =>
    rw [first] at applied
    cases applied
  | ok middle =>
    refine ⟨middle, rfl, (law _ malformedArguments middle first plain).1, ?_⟩
    cases whole :
        (atRoot.applyArguments .empty (noticedArguments ++ malformedArguments)).outcome with
    | ok last =>
      rw [whole] at fails
      cases fails
    | error failure =>
      obtain ⟨front, argument, rest, split, failsAt⟩ := (position _ failure).mp whole
      exact ⟨failure, front, argument, rest, split, failsAt⟩

end Draft

end ScanSetup
