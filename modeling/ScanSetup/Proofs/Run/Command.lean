import ScanSetup.CommandLine
import ScanSetup.Proofs.Configuration.Rendering
import ScanSetup.Proofs.Configuration.Unescaped
import ScanSetup.Proofs.Run.Build
import ScanSetup.Proofs.Run.CommandText

set_option autoImplicit false

namespace ScanSetup

open Terminal

/-- The world as the program finds it: lines of standard input end in `\n`. -/
def Environment.asRead (env : Environment) : Environment :=
  { env with stdin := String.ofList (Text.normalizeLineEnds env.stdin.toList) }

/-- A log as it is shown on standard error. -/
def shownLog (env : Environment) (log : List LogEntry) : String :=
  String.join (log.map fun entry => (entry.show env).error)

/-- How a program ends that reports a run: with the written form of the configuration, or with the
message of an announced failure behind the log. -/
def Run.ending (env : Environment) (run : Run Configuration) : Ending :=
  match run.outcome with
  | .ok config =>
    match config.render with
    | .ok text => ⟨0, none, ⟨text ++ "\n", shownLog env run.log⟩⟩
    | .error failure => ⟨1, some failure, ⟨"", shownLog env run.log⟩⟩
  | .error (.config error) => ⟨1, none, ⟨"", shownLog env (run.log ++ [.failure error.message])⟩⟩
  | .error failure => ⟨1, some failure, ⟨"", shownLog env run.log⟩⟩

theorem show_output (env : Environment) (entry : LogEntry) : (entry.show env).output = "" := by
  cases entry <;> rfl

theorem foldl_shown (env : Environment) (log : List LogEntry) (error : String) :
    (log.map (·.show env)).foldl Transcript.append ⟨"", error⟩ =
      ⟨"", error ++ shownLog env log⟩ := by
  induction log generalizing error with
  | nil => simp [shownLog]
  | cons entry rest ih =>
    have one : Transcript.append ⟨"", error⟩ (entry.show env) =
        ⟨"", error ++ (entry.show env).error⟩ := by
      rw [Transcript.append, show_output, String.append_empty]
    rw [List.map_cons, List.foldl_cons, one, ih]
    simp [shownLog, String.append_assoc]

theorem join_shown (env : Environment) (log : List LogEntry) :
    Transcript.join (log.map (·.show env)) = ⟨"", shownLog env log⟩ := by
  rw [Transcript.join, Transcript.empty, foldl_shown, String.empty_append]

/-- The command reports the run over the arguments that it is left with. -/
theorem runResolve_eq (env : Environment) (arguments : List String) :
    Command.runResolve env arguments =
      (build env env.isInteractive arguments).ending env := by
  simp only [Command.runResolve, resolveArguments, Run.ending]
  cases build env env.isInteractive arguments with
  | mk log outcome =>
    cases outcome with
    | ok config =>
      cases written : config.render with
      | ok text =>
        simp only [written, join_shown, echo_of_unescaped (Configuration.render_unescaped written)]
        simp [Transcript.append]
      | error failure =>
        have textless : ¬ ∃ text, config.render = .ok text := by simp [written]
        obtain rfl : failure = .fault .numberTooLong :=
          Except.error.inj (written.symm.trans (Configuration.render_eq_error textless))
        simp only [written, join_shown]
    | error failure =>
      cases failure <;> simp only [join_shown]

def spacedLength : List String → Nat
  | [] => 0
  | text :: rest => 1 + text.length + spacedLength rest

theorem intercalate_length (first : String) (rest : List String) :
    (" ".intercalate (first :: rest)).length = first.length + spacedLength rest := by
  induction rest generalizing first with
  | nil => simp [spacedLength]
  | cons second rest ih =>
    have space : " ".length = 1 := rfl
    rw [String.intercalate_cons_cons, String.length_append, String.length_append, ih, space]
    simp only [spacedLength]
    omega

theorem spacedLength_erase {text : String} {texts : List String} (member : text ∈ texts) :
    spacedLength texts = 1 + text.length + spacedLength (texts.erase text) := by
  induction texts with
  | nil => cases member
  | cons first rest ih =>
    by_cases same : first = text
    · rw [same, List.erase_cons_head]
      rfl
    · have later := ih (List.mem_of_ne_of_mem (Ne.symm same) member)
      rw [List.erase_cons_tail (by simpa using same)]
      simp only [spacedLength, later]
      omega

theorem build_commandLine {env : Environment} {interactive : Bool} {arguments : List String}
    {config : Configuration} (success : (build env interactive arguments).outcome = .ok config) :
    config.settings.commandLine = commandText arguments := by
  rw [build_eq_closed env interactive arguments arguments] at success
  obtain ⟨made, -, rfl⟩ := map_eq_ok_iff.mp success
  rfl

theorem commandText_erase_ne {arguments : List String} (member : endOfOptions ∈ arguments) :
    commandText (arguments.erase endOfOptions) ≠ commandText arguments := by
  intro same
  have lengths := congrArg String.length same
  rw [commandText, commandText, intercalate_length, intercalate_length,
    spacedLength_erase member] at lengths
  omega

/-- The program reports the run over its arguments without their first end of the options. That is
the run over all of them exactly if there is none to lose, or if both runs fail alike. -/
theorem runProgram_resolve (env : Environment) (arguments : List String) :
    let world := env.asRead
    let given := build world world.isInteractive arguments
    let received := build world world.isInteractive (arguments.erase endOfOptions)
    runProgram env ("resolve" :: arguments) = received.ending world ∧
      (endOfOptions ∉ arguments →
        runProgram env ("resolve" :: arguments) = given.ending world) ∧
      (received.outcome = given.outcome ↔
        endOfOptions ∉ arguments ∨
          ∃ failure, given.outcome = .error failure ∧ received.outcome = .error failure) := by
  intro world given received
  have reported : runProgram env ("resolve" :: arguments) = received.ending world :=
    runResolve_eq world (arguments.erase endOfOptions)
  have whole (absent : endOfOptions ∉ arguments) : received = given := by
    simp only [received, given, List.erase_of_not_mem absent]
  refine ⟨reported, fun absent => by rw [reported, whole absent], ?_⟩
  constructor
  · intro same
    by_cases member : endOfOptions ∈ arguments
    · refine Or.inr ?_
      cases made : given.outcome with
      | error failure => exact ⟨failure, rfl, same.trans made⟩
      | ok config =>
        have lost := build_commandLine (same.trans made)
        exact absurd (lost.symm.trans (build_commandLine made)) (commandText_erase_ne member)
    · exact Or.inl member
  · rintro (absent | ⟨failure, givenFailed, receivedFailed⟩)
    · rw [whole absent]
    · rw [givenFailed, receivedFailed]

def dashedArguments : List String := ["--", "-dash"]

/-- The command reads as an option what stands behind the end of the options, and so it fails where
the run over all arguments succeeds. -/
theorem dashedArguments_lost :
    (runProgram .directories ("resolve" :: dashedArguments)).code = 1 ∧
      ∃ config, (build .directories true dashedArguments).outcome = .ok config ∧
        config.paths = [⟨"-dash", false⟩] := by
  have failed : (runProgram .directories ("resolve" :: dashedArguments)).code = 1 := by
    decide +kernel
  have success : ((build .directories true dashedArguments).outcome.toOption.any fun config =>
      config.paths = [⟨"-dash", false⟩]) = true := by
    decide +kernel
  obtain ⟨config, made, paths⟩ := eq_ok_of_any success
  exact ⟨failed, config, made, of_decide_eq_true paths⟩

end ScanSetup
