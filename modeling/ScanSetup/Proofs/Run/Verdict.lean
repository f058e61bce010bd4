import ScanSetup.Proofs.Run.Outputs

set_option autoImplicit false

namespace ScanSetup

open Options

namespace PathList

/-- The paths that the arguments name. The fallback is asked for if they name none, and none of
them is missing. -/
def gathered (access : String → Except AccessFault String) (stdin fallback : String)
    (arguments : List String) : PathList :=
  let (list, isPreferred) := addArguments access false (stdinPaths stdin) .empty arguments
  if list.entries.isEmpty && !list.failed then list.add access isPreferred fallback else list

theorem collect_eq (access : String → Except AccessFault String) (stdin fallback : String)
    (arguments : List String) :
    collect access stdin fallback arguments =
      let list := gathered access stdin fallback arguments
      if list.entries.isEmpty then .error list.notices else .ok list := by
  cases unnamed :
      (addArguments access false (stdinPaths stdin) .empty arguments).1.entries.isEmpty with
  | false => simp [collect, gathered, unnamed]
  | true =>
    cases failed : (addArguments access false (stdinPaths stdin) .empty arguments).1.failed with
    | true => simp [collect, gathered, unnamed, failed]
    | false => simp [collect, gathered, unnamed, failed]

end PathList

theorem Clamp.inverted_iff {start stop : Clamp} :
    start.inverted stop = true ↔
      (∃ low top, start = .absolute low ∧ stop = .absolute top ∧ top ≤ low) ∨
        ∃ low top, start = .fractional low ∧ stop = .fractional top ∧ top.le low = true := by
  cases start <;> cases stop <;> simp [Clamp.inverted]

/-- An option with this effect is among those of a history. -/
def Occurs (effect : Effect) (occurrences : List Occurrence) : Prop :=
  ∃ o ∈ occurrences, o.effect = effect

instance (effect : Effect) (occurrences : List Occurrence) :
    Decidable (Occurs effect occurrences) :=
  inferInstanceAs (Decidable (∃ o ∈ occurrences, o.effect = effect))

/-- The boundary that the last option with an effect writes, `default` if there is none. -/
def boundary (effect : Effect) (default : Clamp) (occurrences : List Occurrence) :
    Except (Number.Unread Clamp.Error) Clamp :=
  match (occurrences.filter fun o => decide (o.effect = effect)).getLast? with
  | none => .ok default
  | some o => Clamp.parse o.value

def KeepsAll (occurrences : List Occurrence) : Prop :=
  Occurs (.switch .keepAllTagged true) occurrences ∧
    Occurs (.switch .keepAllUntagged true) occurrences

instance (occurrences : List Occurrence) : Decidable (KeepsAll occurrences) :=
  inferInstanceAs (Decidable (_ ∧ _))

/-- The boundaries of the read window are both offsets or both fractions, and the start does not
lie before the end. -/
def WindowEmpty (occurrences : List Occurrence) : Prop :=
  ∃ start stop, boundary .clampLow .fileStart occurrences = .ok start ∧
    boundary .clampTop .fileEnd occurrences = .ok stop ∧
    ((∃ low top, start = .absolute low ∧ stop = .absolute top ∧ top ≤ low) ∨
      ∃ low top, start = .fractional low ∧ stop = .fractional top ∧ top.le low = true)

instance (occurrences : List Occurrence) : Decidable (WindowEmpty occurrences) :=
  decidable_of_iff
    ((match boundary .clampLow .fileStart occurrences, boundary .clampTop .fileEnd occurrences with
      | .ok start, .ok stop => start.inverted stop
      | _, _ => false) = true) (by
    unfold WindowEmpty
    cases boundary .clampLow .fileStart occurrences <;>
      cases boundary .clampTop .fileEnd occurrences <;> simp [Clamp.inverted_iff])

/-- Outputs are asked for both instead of the default ones and beside them, with whatever
formatters. -/
def OutputsClash (occurrences : List Occurrence) : Prop :=
  Occurs (.output .override) occurrences ∧ Occurs (.output .add) occurrences

instance (occurrences : List Occurrence) : Decidable (OutputsClash occurrences) :=
  inferInstanceAs (Decidable (_ ∧ _))

/-- The paths of a command line; the working directory if it names none. -/
def pathsOf (env : Environment) (arguments : List String) : PathList :=
  .gathered env.access env.stdin (Draft.asDirectory env.workingDirectory) (pathArguments arguments)

/-- The objection of the closing checks: the first one that applies. -/
def objection? (env : Environment) (arguments : List String) : Option ConfigError :=
  if KeepsAll (history arguments) then some (.conflict .keepAll)
  else if WindowEmpty (history arguments) then some (.conflict .clampInverted)
  else if (pathsOf env arguments).entries = [] then
    some (.noValidPaths (pathsOf env arguments).notices)
  else if OutputsClash (history arguments) then some (.conflict .outputModes)
  else none

namespace Draft

variable {env : Environment} {d last : Draft} {occurrences : List Occurrence}

theorem applyHistory_workingDirectory (success : d.applyHistory env occurrences = .ok last) :
    last.settings.workingDirectory = d.settings.workingDirectory :=
  applyHistory_constant (fun d => d.settings.workingDirectory)
    (fun _ _ _ applied => (change_of_apply applied).workingDirectory_eq) success

/-- A switch that only merging directories could move beside its own options, and that no option
switches off, is on from the first option that switches it on. -/
theorem applyHistory_switch (target : Switch) (apart : target ∉ mergingSwitches)
    (never : ¬ Occurs (.switch target false) occurrences)
    (success : d.applyHistory env occurrences = .ok last) :
    last.settings.switches target = true ↔
      d.settings.switches target = true ∨ Occurs (.switch target true) occurrences := by
  refine applyHistory_sticky (fun d => d.settings.switches target = true)
    (fun o => o.effect = .switch target true) ?_ success
  intro o member d next applied
  have kept : o.effect ≠ .switch target false := fun off => never ⟨o, member, off⟩
  rw [(change_of_apply applied).switches_iff apart, and_iff_left kept, or_comm]

theorem applyHistory_boundary {effect : Effect} (view : Draft → Clamp)
    (each : ∀ (o : Occurrence) (d next : Draft), o.apply env d = .ok next →
      if o.effect = effect then Clamp.parse o.value = .ok (view next) else view next = view d)
    (success : d.applyHistory env occurrences = .ok last) :
    boundary effect (view d) occurrences = .ok (view last) := by
  have written := applyHistory_last view (fun o => decide (o.effect = effect))
    (fun o clamp => Clamp.parse o.value = .ok clamp)
    (fun o d next applied => by simpa using each o d next applied) success
  unfold boundary
  cases found : (occurrences.filter fun o => decide (o.effect = effect)).getLast? with
  | none =>
    rw [found] at written
    exact congrArg _ written.symm
  | some o =>
    rw [found] at written
    exact written

end Draft

theorem keepAll_never_off {arguments : List String} {target : Switch}
    (keeps : target ∈ [Switch.keepAllTagged, Switch.keepAllUntagged]) :
    ¬ Occurs (.switch target false) (history arguments) := by
  have unknown : ∀ target ∈ [Switch.keepAllTagged, Switch.keepAllUntagged],
      Effect.switch target false ∉ table.map (·.meaning) := by decide +kernel
  rintro ⟨o, member, off⟩
  have known := history_known o member
  rw [off] at known
  exact unknown target keeps known

section

variable {env : Environment} {arguments : List String} {draft : Draft}
variable (applied : ((Draft.initial arguments env.now env.workingDirectory).applyArguments
  env arguments).outcome = .ok draft)

include applied

theorem keepsAll_iff :
    (draft.settings.switches .keepAllTagged && draft.settings.switches .keepAllUntagged) = true ↔
      KeepsAll (history arguments) := by
  obtain ⟨last, run, rfl⟩ := Draft.applyArguments_eq_ok applied
  have tagged := Draft.applyHistory_switch .keepAllTagged (by decide)
    (keepAll_never_off (by decide)) run
  have untagged := Draft.applyHistory_switch .keepAllUntagged (by decide)
    (keepAll_never_off (by decide)) run
  rw [Bool.and_eq_true, KeepsAll]
  exact and_congr (tagged.trans (or_iff_right Bool.false_ne_true))
    (untagged.trans (or_iff_right Bool.false_ne_true))

theorem boundary_clampLow :
    boundary .clampLow .fileStart (history arguments) = .ok draft.settings.clampStart := by
  obtain ⟨last, run, rfl⟩ := Draft.applyArguments_eq_ok applied
  exact Draft.applyHistory_boundary (fun d => d.settings.clampStart)
    (fun _ _ _ success => (Draft.change_of_apply success).clampStart_eq) run

theorem boundary_clampTop :
    boundary .clampTop .fileEnd (history arguments) = .ok draft.settings.clampEnd := by
  obtain ⟨last, run, rfl⟩ := Draft.applyArguments_eq_ok applied
  exact Draft.applyHistory_boundary (fun d => d.settings.clampEnd)
    (fun _ _ _ success => (Draft.change_of_apply success).clampEnd_eq) run

theorem windowEmpty_iff :
    draft.settings.clampStart.inverted draft.settings.clampEnd = true ↔
      WindowEmpty (history arguments) := by
  have low := boundary_clampLow applied
  have top := boundary_clampTop applied
  rw [Clamp.inverted_iff, WindowEmpty]
  constructor
  · intro reversed
    exact ⟨_, _, low, top, reversed⟩
  · rintro ⟨start, stop, first, last, reversed⟩
    obtain rfl : draft.settings.clampStart = start := Except.ok.inj (low.symm.trans first)
    obtain rfl : draft.settings.clampEnd = stop := Except.ok.inj (top.symm.trans last)
    exact reversed

theorem outputsClash_iff :
    (0 ≤ draft.outputCount ∧ 0 ≤ draft.addOutputCount) ↔ OutputsClash (history arguments) := by
  obtain ⟨last, run, rfl⟩ := Draft.applyArguments_eq_ok applied
  have used : ∀ mode, 0 ≤ last.counter mode ↔ Occurs (.output mode) (history arguments) := by
    intro mode
    rw [Draft.applyHistory_counter run]
    refine or_iff_right ?_
    cases mode <;> simp [Draft.counter, Draft.initial, Draft.unused]
  exact and_congr (used .override) (used .add)

theorem collect_eq_pathsOf :
    PathList.collect env.access env.stdin (draft.fallback env) draft.positionals =
      if (pathsOf env arguments).entries.isEmpty then .error (pathsOf env arguments).notices
      else .ok (pathsOf env arguments) := by
  obtain ⟨last, run, rfl⟩ := Draft.applyArguments_eq_ok applied
  have directory : last.settings.workingDirectory = Draft.asDirectory env.workingDirectory :=
    Draft.applyHistory_workingDirectory run
  have fallback : (last.withPositionals (([] : List String) ++ pathArguments arguments)).fallback
      env = Draft.asDirectory env.workingDirectory := by
    simp only [Draft.fallback, Draft.withPositionals, directory]
    split
    · rename_i nowhere
      by_cases unnamed : env.workingDirectory.isEmpty = true
      · simp [Draft.asDirectory, unnamed]
      · by_cases slash : env.workingDirectory.toList.getLast? = some '/'
        · simp [Draft.asDirectory, slash]
        · simp [Draft.asDirectory, unnamed, slash] at nowhere
    · rfl
  rw [PathList.collect_eq]
  simp only [Draft.initial, fallback]
  rfl

/-- The closing checks end with their objection, or with a configuration and the notices about its
paths. -/
theorem close_objection (interactive : Bool) :
    match objection? env arguments with
    | some error => draft.close env interactive = .error (.config error)
    | none => ∃ config, draft.close env interactive = .ok (config, (pathsOf env arguments).notices) ∧
        config.verbosity = draft.verbosity := by
  have keeps := keepsAll_iff applied
  have window := windowEmpty_iff applied
  have found := collect_eq_pathsOf applied
  have clash := outputsClash_iff applied
  unfold objection?
  by_cases all : KeepsAll (history arguments)
  · have rejected : draft.conflict? = some .keepAll := by
      rw [Draft.conflict?, if_pos (keeps.mpr all)]
    simp only [all, ↓reduceIte, Draft.close, rejected]
  by_cases reversed : WindowEmpty (history arguments)
  · have rejected : draft.conflict? = some .clampInverted := by
      rw [Draft.conflict?, if_neg (mt keeps.mp all), if_pos (window.mpr reversed)]
    simp only [all, reversed, ↓reduceIte, Draft.close, rejected]
  have calm : draft.conflict? = none := by
    rw [Draft.conflict?, if_neg (mt keeps.mp all), if_neg (mt window.mp reversed)]
  by_cases nowhere : (pathsOf env arguments).entries = []
  · rw [if_pos (List.isEmpty_iff.mpr nowhere)] at found
    simp only [all, reversed, nowhere, ↓reduceIte, Draft.close, calm, found]
  rw [if_neg (mt List.isEmpty_iff.mp nowhere)] at found
  by_cases both : OutputsClash (history arguments)
  · have rejected : draft.sinks = .error .outputModes := by
      rw [Draft.sinks, if_pos (clash.mpr both)]
    simp only [all, reversed, nowhere, both, ↓reduceIte, Draft.close, calm, found, rejected]
  · obtain ⟨sinks, settled⟩ : ∃ sinks, draft.sinks = .ok sinks := by
      rw [Draft.sinks, if_neg (mt clash.mp both)]
      split <;> exact ⟨_, rfl⟩
    have prepared : Prepared env arguments draft (pathsOf env arguments) sinks :=
      ⟨applied, calm, found, settled⟩
    have checked := (prepared.config_sound interactive).checked_eq
    simp only [all, reversed, nowhere, both, ↓reduceIte, Draft.close, calm, found, settled, checked]
    exact ⟨_, rfl, rfl⟩

theorem build_objection (interactive : Bool) :
    match objection? env arguments with
    | some error => (build env interactive arguments).outcome = .error (.config error)
    | none => ∃ config, (build env interactive arguments).outcome = .ok config := by
  have closed := close_objection applied interactive
  cases objected : objection? env arguments with
  | some error =>
    rw [objected] at closed
    simp only [build, applied, closed]
  | none =>
    rw [objected] at closed
    obtain ⟨config, made, -⟩ := closed
    refine ⟨config, ?_⟩
    simp only [build, applied, made]

/-- An objection ends the run that its check objects to, and no other one. -/
theorem build_eq_error_iff (interactive : Bool) (error : ConfigError) :
    (build env interactive arguments).outcome = .error (.config error) ↔
      objection? env arguments = some error := by
  have verdict := build_objection applied interactive
  cases objected : objection? env arguments with
  | some other =>
    rw [objected] at verdict
    rw [verdict, Except.error.injEq, Failure.config.injEq, Option.some.injEq]
  | none =>
    rw [objected] at verdict
    obtain ⟨config, made⟩ := verdict
    simp [made]

theorem exists_build_eq_ok_iff (interactive : Bool) :
    (∃ config, (build env interactive arguments).outcome = .ok config) ↔
      objection? env arguments = none := by
  have verdict := build_objection applied interactive
  cases objected : objection? env arguments with
  | some error =>
    rw [objected] at verdict
    simp [verdict]
  | none =>
    rw [objected] at verdict
    exact iff_of_true verdict rfl

end

/-- After options that could all be applied, the closing checks decide by the history alone, the
first objection first: all tagged and all untagged files are to be kept, the read window is empty,
there is no path, the outputs clash. Without an objection there is a configuration. -/
theorem build_verdict {env : Environment} {arguments : List String} {draft : Draft}
    (applied : ((Draft.initial arguments env.now env.workingDirectory).applyArguments
      env arguments).outcome = .ok draft) (interactive : Bool) :
    let outcome := (build env interactive arguments).outcome
    let occurrences := history arguments
    let paths := pathsOf env arguments
    ((∃ start, boundary .clampLow .fileStart occurrences = .ok start) ∧
      ∃ stop, boundary .clampTop .fileEnd occurrences = .ok stop) ∧
    (outcome = .error (.config (.conflict .keepAll)) ↔ KeepsAll occurrences) ∧
    (outcome = .error (.config (.conflict .clampInverted)) ↔
      ¬ KeepsAll occurrences ∧ WindowEmpty occurrences) ∧
    (∀ notices, outcome = .error (.config (.noValidPaths notices)) ↔
      ¬ KeepsAll occurrences ∧ ¬ WindowEmpty occurrences ∧ paths.entries = [] ∧
        notices = paths.notices) ∧
    (outcome = .error (.config (.conflict .outputModes)) ↔
      ¬ KeepsAll occurrences ∧ ¬ WindowEmpty occurrences ∧ paths.entries ≠ [] ∧
        OutputsClash occurrences) ∧
    ((∃ config, outcome = .ok config) ↔
      ¬ KeepsAll occurrences ∧ ¬ WindowEmpty occurrences ∧ paths.entries ≠ [] ∧
        ¬ OutputsClash occurrences) := by
  intro outcome occurrences paths
  refine ⟨⟨⟨_, boundary_clampLow applied⟩, _, boundary_clampTop applied⟩, ?_⟩
  simp only [outcome, build_eq_error_iff applied, exists_build_eq_ok_iff applied, objection?]
  by_cases all : KeepsAll (history arguments)
  · simp [all, occurrences]
  by_cases reversed : WindowEmpty (history arguments)
  · simp [all, reversed, occurrences]
  by_cases nowhere : (pathsOf env arguments).entries = []
  · simp [all, reversed, nowhere, occurrences, paths, eq_comm]
  by_cases both : OutputsClash (history arguments)
  · simp [all, reversed, nowhere, both, occurrences, paths]
  · simp [all, reversed, nowhere, both, occurrences, paths]

def clashingArguments : List String :=
  ["-q", "90%", "-k", "-o", "tree", "-g", "--clamp-top=100", "-O", "csv", "/music"]

theorem build_verdict_clashingArguments :
    ∃ draft, ((Draft.initial clashingArguments Environment.directories.now
          Environment.directories.workingDirectory).applyArguments .directories
          clashingArguments).outcome = .ok draft ∧
      (build .directories true clashingArguments).outcome =
        .error (.config (.conflict .outputModes)) := by
  have success : ((Draft.initial clashingArguments Environment.directories.now
      Environment.directories.workingDirectory).applyArguments .directories
      clashingArguments).outcome.isOk = true := by decide +kernel
  cases applied : ((Draft.initial clashingArguments Environment.directories.now
      Environment.directories.workingDirectory).applyArguments .directories
      clashingArguments).outcome with
  | error failure =>
    rw [applied] at success
    cases success
  | ok draft =>
    obtain ⟨-, -, -, -, clash, -⟩ := build_verdict applied true
    refine ⟨draft, rfl, clash.mpr ⟨?_, ?_, ?_, ?_⟩⟩
    · decide +kernel
    · decide +kernel
    · decide +kernel
    · decide +kernel

end ScanSetup
