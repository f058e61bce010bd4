import ScanSetup.Proofs.Path.Collection
import ScanSetup.Proofs.Run.Verdict

set_option autoImplicit false

namespace ScanSetup

open Options

namespace PathList

/-- The notices of arguments in order. The first `-` reads the paths that are waiting on standard
input, and leaves none for the next. -/
def argumentNotices (access : String → Except AccessFault String) (waiting : List String) :
    List String → List String
  | [] => []
  | argument :: rest =>
    if argument = preferredToggle then argumentNotices access waiting rest
    else if argument = stdinMark then
      stdinNotices access waiting ++ argumentNotices access [] rest
    else (notice? access argument).toList ++ argumentNotices access waiting rest

/-- A path has been added, or one was found missing. -/
def Touched (list : PathList) : Prop := list.entries ≠ [] ∨ list.failed = true

variable (access : String → Except AccessFault String) (waiting front : List String)

/-- The first `-` behind some arguments reads what these have left on standard input. -/
theorem argumentNotices_eq (arguments : List String) :
    argumentNotices access (waitingBehind waiting front) arguments =
      noticesBehind access waiting front arguments := by
  have apart : preferredToggle ≠ stdinMark := by decide
  induction arguments generalizing front with
  | nil => rfl
  | cons argument rest ih =>
    have later := ih (front ++ [argument])
    rw [noticesBehind_cons, ← later, argumentNotices, noticesAt, candidates]
    split
    · rename_i toggle
      subst toggle
      simp [waitingBehind_append waiting front apart, apart]
    · split
      · rename_i mark
        subst mark
        rw [waitingBehind_append_mark]
      · rename_i path
        simp [waitingBehind_append waiting front path, List.filterMap_eq_flatMap_toList]

theorem addArguments_notices (arguments : List String) :
    (addArguments access false waiting empty arguments).1.notices =
      argumentNotices access waiting arguments := by
  have added : addArguments access false waiting empty arguments = _ :=
    addArguments_eq_plus access empty waiting [] arguments
  have notices : argumentNotices access waiting arguments = _ :=
    argumentNotices_eq access waiting [] arguments
  rw [added, notices]
  rfl

theorem addArguments_touched (arguments : List String) :
    (addArguments access false waiting empty arguments).1.Touched ↔
      ∃ argument ∈ arguments, argument ≠ preferredToggle := by
  have added : addArguments access false waiting empty arguments = _ :=
    addArguments_eq_plus access empty waiting [] arguments
  have nothing := addsBehind_nothing_iff access waiting [] arguments
  rw [← not_iff_not] at nothing
  rw [added]
  simpa [Touched, plus, empty, or_iff_not_imp_left] using nothing

/-- The notices of gathered paths: those of the arguments, and that of the fallback if no argument
names a path. -/
theorem gathered_notices (stdin fallback : String) (arguments : List String) :
    (gathered access stdin fallback arguments).notices =
      argumentNotices access (stdinPaths stdin) arguments ++
        if ∀ argument ∈ arguments, argument = preferredToggle then
          (notice? access fallback).toList
        else [] := by
  have notices := addArguments_notices access (stdinPaths stdin) arguments
  have touched := addArguments_touched access (stdinPaths stdin) arguments
  unfold gathered
  generalize addArguments access false (stdinPaths stdin) empty arguments = collected
    at notices touched ⊢
  obtain ⟨list, isPreferred⟩ := collected
  have untouched : (list.entries.isEmpty && !list.failed) = true ↔
      ∀ argument ∈ arguments, argument = preferredToggle := by
    rw [← not_iff_not]
    simpa [Touched, or_iff_not_imp_left] using touched
  dsimp only at notices ⊢
  by_cases named : ∀ argument ∈ arguments, argument = preferredToggle
  · rw [if_pos (untouched.mpr named), if_pos named, add_eq_plus, ← notices]
    rfl
  · rw [if_neg (mt untouched.mp named), if_neg named, notices, List.append_nil]

end PathList

/-- The notices that collecting the paths of a command line records. -/
def recordedNotices (env : Environment) (arguments : List String) : List String :=
  PathList.argumentNotices env.access (stdinPaths env.stdin) (pathArguments arguments) ++
    if ∀ argument ∈ pathArguments arguments, argument = preferredToggle then
      (PathList.notice? env.access (Draft.asDirectory env.workingDirectory)).toList
    else []

theorem pathsOf_notices (env : Environment) (arguments : List String) :
    (pathsOf env arguments).notices = recordedNotices env arguments :=
  PathList.gathered_notices ..

/-- The notices that the closing checks leave: those about paths, unless an objection comes before
the paths or behind them. -/
def closingNotices (env : Environment) (arguments : List String) : List String :=
  match objection? env arguments with
  | none => (pathsOf env arguments).notices
  | some (.noValidPaths notices) => notices
  | some _ => []

section

variable {env : Environment} {arguments : List String} {draft : Draft}
variable (applied : ((Draft.initial arguments env.now env.workingDirectory).applyArguments
  env arguments).outcome = .ok draft)

include applied

/-- Behind the log of the options stand the notices of the closing checks. -/
theorem build_log (interactive : Bool) :
    (build env interactive arguments).log =
      ((Draft.initial arguments env.now env.workingDirectory).applyArguments env arguments).log ++
        warnings draft.verbosity (closingNotices env arguments) := by
  have closed := close_objection applied interactive
  unfold closingNotices
  cases objected : objection? env arguments with
  | some error =>
    rw [objected] at closed
    simp only [build, applied, closed]
    cases error <;> rfl
  | none =>
    rw [objected] at closed
    obtain ⟨config, made, level⟩ := closed
    simp only [build, applied, made, level]

theorem objection?_of_calm (calm : draft.conflict? = none) :
    objection? env arguments =
      if (pathsOf env arguments).entries = [] then
        some (.noValidPaths (recordedNotices env arguments))
      else if OutputsClash (history arguments) then some (.conflict .outputModes)
      else none := by
  obtain ⟨apart, ordered⟩ := Draft.conflict?_eq_none calm
  have few : ¬ KeepsAll (history arguments) := by
    rw [← keepsAll_iff applied, Bool.and_eq_true]
    exact apart
  have wide : ¬ WindowEmpty (history arguments) := by
    rw [← windowEmpty_iff applied, ordered]
    exact Bool.false_ne_true
  rw [objection?, if_neg few, if_neg wide, pathsOf_notices]

end

/-- After options that leave no contradiction, at a level that shows warnings: collecting the paths
records one notice for each path that is not accessible and one for each `-` that reads none, and
the run ends with a configuration, without paths, or with a clash of outputs. The notices are
reported once, in order, behind those of the options, unless the outputs clash: then none is. -/
theorem build_pathNotices {env : Environment} {arguments : List String} {draft : Draft}
    (applied : ((Draft.initial arguments env.now env.workingDirectory).applyArguments
      env arguments).outcome = .ok draft)
    (shown : draft.verbosity.showsWarnings = true) (calm : draft.conflict? = none)
    (interactive : Bool) :
    let front :=
      ((Draft.initial arguments env.now env.workingDirectory).applyArguments env arguments).log
    let run := build env interactive arguments
    let notices := recordedNotices env arguments
    (match PathList.collect env.access env.stdin (draft.fallback env) draft.positionals with
      | .ok list => list.notices = notices
      | .error recorded => recorded = notices) ∧
    ((∃ config, run.outcome = .ok config) ∨
      run.outcome = .error (.config (.noValidPaths notices)) ∨
      run.outcome = .error (.config (.conflict .outputModes))) ∧
    (run.log = front ++ notices.map .warning ↔
      notices = [] ∨ run.outcome ≠ .error (.config (.conflict .outputModes))) ∧
    (run.outcome = .error (.config (.conflict .outputModes)) → run.log = front) := by
  intro front run notices
  have log : run.log = front ++ (closingNotices env arguments).map .warning := by
    rw [show run.log = _ from build_log applied interactive, warnings, if_pos shown]
  have recorded := collect_eq_pathsOf applied
  have verdict := build_objection applied interactive
  rw [closingNotices, pathsOf_notices] at log
  rw [pathsOf_notices] at recorded
  rw [objection?_of_calm applied calm] at log verdict
  by_cases nowhere : (pathsOf env arguments).entries = []
  · rw [if_pos nowhere] at log verdict
    rw [if_pos (List.isEmpty_iff.mpr nowhere)] at recorded
    have other : run.outcome ≠ .error (.config (.conflict .outputModes)) := by
      rw [show run.outcome = _ from verdict]
      simp
    refine ⟨?_, Or.inr (Or.inl verdict), iff_of_true log (Or.inr other), fun clash => ?_⟩
    · rw [recorded]
    · exact absurd clash other
  rw [if_neg nowhere] at log verdict
  rw [if_neg (mt List.isEmpty_iff.mp nowhere)] at recorded
  have listed : (pathsOf env arguments).notices = notices := pathsOf_notices env arguments
  by_cases both : OutputsClash (history arguments)
  · rw [if_pos both] at log verdict
    have silent : run.log = front := log.trans (List.append_nil _)
    refine ⟨by rw [recorded]; exact listed, Or.inr (Or.inr verdict), ?_, fun _ => silent⟩
    rw [silent, List.self_eq_append_right, List.map_eq_nil_iff]
    exact (or_iff_left (not_not_intro verdict)).symm
  · rw [if_neg both] at log verdict
    obtain ⟨config, made⟩ := verdict
    have other : run.outcome ≠ .error (.config (.conflict .outputModes)) := by
      rw [show run.outcome = _ from made]
      simp
    refine ⟨by rw [recorded]; exact listed, Or.inl ⟨config, made⟩, iff_of_true log (Or.inr other),
      fun clash => ?_⟩
    exact absurd clash other

/-- A world with one directory, the working directory. Every other path is missing. -/
def Environment.onlyMusic : Environment :=
  { Environment.directories with
    lookup := fun path =>
      if path = "/music" ∨ path = "." then .ok ⟨"/music", .directory, true, none⟩
      else .error (.system .noEntry)
    stdin := "/gone\n" }

def missingArguments : List String := ["missing", "-v", "//", "-", "/music"]

theorem build_pathNotices_missingArguments :
    ∃ draft config, ((Draft.initial missingArguments Environment.onlyMusic.now
          Environment.onlyMusic.workingDirectory).applyArguments .onlyMusic
          missingArguments).outcome = .ok draft ∧
      draft.verbosity.showsWarnings = true ∧ draft.conflict? = none ∧
      (build .onlyMusic true missingArguments).outcome = .ok config ∧
      (build .onlyMusic true missingArguments).log =
        [.warning (PathList.inaccessibleNotice "missing" .missing),
          .warning (PathList.inaccessibleNotice "/gone" .missing),
          .warning PathList.emptyStdinNotice] := by
  have success : (((Draft.initial missingArguments Environment.onlyMusic.now
      Environment.onlyMusic.workingDirectory).applyArguments .onlyMusic
      missingArguments).outcome.toOption.any fun draft =>
        draft.verbosity.showsWarnings && draft.conflict?.isNone) = true := by decide +kernel
  have built : (build .onlyMusic true missingArguments).outcome.isOk = true := by decide +kernel
  have recorded : recordedNotices .onlyMusic missingArguments =
      [PathList.inaccessibleNotice "missing" .missing,
        PathList.inaccessibleNotice "/gone" .missing, PathList.emptyStdinNotice] := by
    decide +kernel
  have silent : ((Draft.initial missingArguments Environment.onlyMusic.now
      Environment.onlyMusic.workingDirectory).applyArguments .onlyMusic
      missingArguments).log = [] := by decide +kernel
  obtain ⟨draft, applied, facts⟩ := eq_ok_of_any success
  obtain ⟨shown, calm⟩ := Bool.and_eq_true_iff.mp facts
  have calm : draft.conflict? = none := Option.isNone_iff_eq_none.mp calm
  obtain ⟨config, made⟩ := eq_ok_of_isOk built
  obtain ⟨-, -, reported, -⟩ := build_pathNotices applied shown calm true
  refine ⟨draft, config, applied, shown, calm, made, ?_⟩
  rw [reported.mpr (Or.inr (by rw [made]; simp)), silent, recorded]
  rfl

def clashingPathArguments : List String := ["missing", ".", "-o", "csv", "-O", "json"]

/-- The notice about the missing path is recorded at a level that shows warnings, and lost. -/
theorem clashingPathArguments_notice_lost :
    ∃ draft list, ((Draft.initial clashingPathArguments Environment.onlyMusic.now
          Environment.onlyMusic.workingDirectory).applyArguments .onlyMusic
          clashingPathArguments).outcome = .ok draft ∧
      draft.verbosity.showsWarnings = true ∧ draft.conflict? = none ∧
      PathList.collect Environment.onlyMusic.access Environment.onlyMusic.stdin
        (draft.fallback .onlyMusic) draft.positionals = .ok list ∧
      list.notices = [PathList.inaccessibleNotice "missing" .missing] ∧
      (build .onlyMusic true clashingPathArguments).outcome =
        .error (.config (.conflict .outputModes)) ∧
      (build .onlyMusic true clashingPathArguments).log = [] := by
  have success : (((Draft.initial clashingPathArguments Environment.onlyMusic.now
      Environment.onlyMusic.workingDirectory).applyArguments .onlyMusic
      clashingPathArguments).outcome.toOption.any fun draft =>
        (draft.verbosity.showsWarnings && draft.conflict?.isNone) &&
          (PathList.collect Environment.onlyMusic.access Environment.onlyMusic.stdin
            (draft.fallback .onlyMusic) draft.positionals).toOption.any fun list =>
              list.notices == [PathList.inaccessibleNotice "missing" .missing]) = true := by
    decide +kernel
  have silent : (build .onlyMusic true clashingPathArguments).log = [] := by decide +kernel
  obtain ⟨draft, applied, facts⟩ := eq_ok_of_any success
  obtain ⟨level, collected⟩ := Bool.and_eq_true_iff.mp facts
  obtain ⟨shown, calm⟩ := Bool.and_eq_true_iff.mp level
  obtain ⟨list, found, notices⟩ := eq_ok_of_any collected
  have calm : draft.conflict? = none := Option.isNone_iff_eq_none.mp calm
  refine ⟨draft, list, applied, shown, calm, found, eq_of_beq notices, ?_, silent⟩
  exact (build_eq_error_iff applied true (.conflict .outputModes)).mpr (by decide +kernel)

end ScanSetup
