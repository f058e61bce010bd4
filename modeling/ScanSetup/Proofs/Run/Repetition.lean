import ScanSetup.Proofs.Run.Exchange

set_option autoImplicit false

namespace ScanSetup

open Options

/-- The long names of the options whose effects add up. -/
def accumulating : List String :=
  ["loud", "quiet", "paranoid", "less-paranoid", "output", "add-output", "config", "cache",
    "newer-than-stamp"]

/-- The effect of an option adds to what was there before. -/
def Options.Effect.accumulates : Effect → Bool
  | .verbosity _ | .paranoia _ | .output _ | .configure | .cache | .newerThanStamp => true
  | _ => false

theorem accumulates_iff {spec : Spec Effect} (member : spec ∈ table) :
    spec.meaning.accumulates = true ↔ spec.long ∈ accumulating := by
  have all : (table.all fun spec =>
      decide (spec.meaning.accumulates = true ↔ spec.long ∈ accumulating)) = true := by
    decide +kernel
  exact of_decide_eq_true (List.all_eq_true.mp all spec member)

theorem Lint.Selection.apply_apply (s : Selection) (before : Categories) :
    s.apply (s.apply before) = s.apply before := by
  funext category
  simp only [apply]
  cases s.disable category <;> cases s.enable category <;> cases s.reset <;> simp

theorem Switches.set_set (switches : Switches) (target : Switch) (on : Bool) :
    (switches.set target on).set target on = switches.set target on := by
  funext other
  simp only [set]
  split <;> rfl

namespace Draft

variable {d next last : Draft} {env : Environment} {effect : Effect} {value : String}
variable {o : Occurrence} {front back : List Occurrence}

theorem get_notices (d : Draft) (notices : List String) (field : Field) :
    ({ d with notices := notices } : Draft).get field = d.get field := by
  cases field <;> rfl

/-- Switching hidden files and hard links a second time changes nothing. -/
theorem applySelection_again (d : Draft) (selection : Lint.Selection) :
    (d.applySelection selection).applySelection selection =
      { d.applySelection selection with
        notices := (d.applySelection selection).notices ++ selection.notices } := by
  by_cases merging : selection.apply d.settings.lint .duplicateDirs = true
  · have switches : (((d.settings.switches.set .ignoreHidden false).set .findHardlinkedDupes
        true).set .ignoreHidden false).set .findHardlinkedDupes true =
          (d.settings.switches.set .ignoreHidden false).set .findHardlinkedDupes true := by
      funext target
      cases target <;> rfl
    simp only [applySelection, update, Settings.withSwitch, merging, ↓reduceIte,
      Lint.Selection.apply_apply, switches]
  · simp only [applySelection, update, merging, Bool.false_eq_true, ↓reduceIte,
      Lint.Selection.apply_apply]

theorem mergeDirectories_again (d : Draft) : d.mergeDirectories.mergeDirectories =
    d.mergeDirectories := by
  have lint (categories : Lint.Categories) (more : Lint.Categories) :
      (categories.union more).union more = categories.union more := by
    funext category
    simp [Lint.Categories.union]
  have switches : (((d.settings.switches.set .findHardlinkedDupes true).set .ignoreHidden
      false).set .findHardlinkedDupes true).set .ignoreHidden false =
        (d.settings.switches.set .findHardlinkedDupes true).set .ignoreHidden false := by
    funext target
    cases target <;> rfl
  simp only [mergeDirectories, update, lint, switches]

theorem filterNewer_again {option spec : String} (applied : d.filterNewer option spec = .ok next) :
    ∃ noted, next.filterNewer option spec =
      .ok { next with notices := next.notices ++ noted } := by
  obtain ⟨stamp, notices, parsed, made⟩ := filterNewer_eq_ok applied
  have time : d.referenceTime = next.referenceTime := by rw [made]; rfl
  have alike := filterNewer_parallel option spec (agreeOn_nil (a := d) (b := next)) time
  rw [applied] at alike
  obtain ⟨again, -, repeated, -⟩ := alike.of_ok
  obtain ⟨same, noted, reparsed, remade⟩ := filterNewer_eq_ok repeated
  rw [← time, parsed] at reparsed
  cases reparsed
  refine ⟨noted, ?_⟩
  rw [repeated, remade, made]
  rfl

/-- An option applied again to its own result leaves it as it is, up to its notices. -/
theorem apply_again (harmless : effect.accumulates = false)
    (applied : effect.apply env value d = .ok next) :
    ∃ noted, effect.apply env value next = .ok { next with notices := next.notices ++ noted } := by
  have silent (same : effect.apply env value next = .ok next) :
      ∃ noted, effect.apply env value next =
        .ok { next with notices := next.notices ++ noted } :=
    ⟨[], by rw [same, List.append_nil]⟩
  cases effect with
  | threads =>
    obtain ⟨n, read, rfl⟩ := map_eq_ok_iff.mp applied
    exact silent (congrArg (Except.map _) read)
  | maxDepth =>
    obtain ⟨n, read, rfl⟩ := map_eq_ok_iff.mp applied
    exact silent (congrArg (Except.map _) read)
  | sortCriteria =>
    cases applied
    exact silent rfl
  | types =>
    cases applied
    exact ⟨_, congrArg Except.ok (applySelection_again d _)⟩
  | sizeLimits =>
    cases change_of_apply applied with
    | sizeLimits read => exact silent (by simp only [Effect.apply, read]; rfl)
  | algorithm =>
    cases change_of_apply applied with
    | algorithm read => exact silent (by simp only [Effect.apply, read]; rfl)
  | paranoidMem =>
    cases change_of_apply applied with
    | paranoidMem read => exact silent (by simp only [Effect.apply, read]; rfl)
  | newerThan => exact filterNewer_again applied
  | clampLow =>
    obtain ⟨clamp, read, rfl⟩ := map_eq_ok_iff.mp applied
    exact silent (congrArg (Except.map _) read)
  | clampTop =>
    obtain ⟨clamp, read, rfl⟩ := map_eq_ok_iff.mp applied
    exact silent (congrArg (Except.map _) read)
  | preset sinks =>
    cases applied
    exact silent rfl
  | mergeDirectories =>
    cases applied
    exact silent (congrArg Except.ok (mergeDirectories_again d))
  | switch target on =>
    cases applied
    refine silent (congrArg Except.ok ?_)
    simp only [update, Settings.withSwitch, Switches.set_set]
  | _ => cases harmless

/-- Two results are the same failure, or drafts that differ in what was noted at most. -/
inductive SameButNotices : Except Failure Draft → Except Failure Draft → Prop
  | failed (failure : Failure) : SameButNotices (.error failure) (.error failure)
  | applied {first second : Draft} (agree : AgreeOn Field.all first second) :
      SameButNotices (.ok first) (.ok second)

theorem SameButNotices.refl (result : Except Failure Draft) : SameButNotices result result := by
  cases result with
  | error failure => exact .failed failure
  | ok draft => exact .applied fun _ _ => rfl

theorem Parallel.sameButNotices {a b : Draft} {one other : Except Failure Draft}
    (alike : Parallel Field.all a b one other) : SameButNotices one other := by
  cases alike with
  | failed failure => exact .failed failure
  | applied _ agree => exact .applied agree

theorem applyHistory_repeat (harmless : o.effect.accumulates = false)
    (front back : List Occurrence) (d : Draft) :
    SameButNotices (d.applyHistory env (front ++ [o] ++ back))
      (d.applyHistory env (front ++ ([o] ++ [o]) ++ back)) := by
  simp only [List.append_assoc, applyHistory_append env d front]
  cases d.applyHistory env front with
  | error failure => exact .failed failure
  | ok middle =>
    simp only [List.cons_append, List.nil_append, applyHistory]
    cases applied : o.apply env middle with
    | error failure => exact .failed failure
    | ok next =>
      obtain ⟨noted, again⟩ := apply_again harmless applied
      have repeated : o.apply env next = .ok { next with notices := next.notices ++ noted } := again
      simp only [repeated]
      exact (applyHistory_parallel (fun o _ field _ => field.mem_all)
        fun field _ => (get_notices next _ field).symm).sameButNotices

/-- The end of a run does not look at what was noted on the way. -/
theorem SameButNotices.close_eq {one other : Except Failure Draft}
    (same : SameButNotices one other) (interactive : Bool) :
    (one.bind fun draft => draft.close env interactive) =
      other.bind fun draft => draft.close env interactive := by
  cases same with
  | failed failure => rfl
  | applied agree => exact close_eq_of_agree agree interactive

theorem applyArguments_outcome (d : Draft) (arguments : List String) :
    (d.applyArguments env arguments).outcome =
      match d.applyHistory env (history arguments), (tokenize schema arguments).error? with
      | .error failure, _ => .error failure
      | .ok _, some error => .error (.config (.usage error))
      | .ok last, none =>
        .ok (last.withPositionals (d.positionals ++ pathArguments arguments)) :=
  applyTokens_outcome env _ d d.positionals (tokenize schema arguments).list

/-- Arguments that leave the same paths and the same error, and whose options leave the same but for
notices, end alike. -/
theorem applyArguments_sameButNotices {first second : List String}
    (options : SameButNotices (d.applyHistory env (history first))
      (d.applyHistory env (history second)))
    (paths : pathArguments first = pathArguments second)
    (error : (tokenize schema first).error? = (tokenize schema second).error?) :
    SameButNotices (d.applyArguments env first).outcome (d.applyArguments env second).outcome := by
  rw [applyArguments_outcome, applyArguments_outcome, paths, error]
  generalize d.applyHistory env (history first) = one at options ⊢
  generalize d.applyHistory env (history second) = other at options ⊢
  cases options with
  | failed failure => exact .failed failure
  | applied agree =>
    cases (tokenize schema second).error? with
    | some error => exact .failed _
    | none => exact .applied (agree.withPositionals _)

end Draft

/-- The arguments hold an error behind which nothing is read. -/
def Broken (arguments : List String) : Prop :=
  ∃ error, (tokenize schema arguments).error? = some error ∧
    ∀ written, error ≠ .missingValue written

theorem Broken.tokenize_append {front : List String} (broken : Broken front)
    (back : List String) : tokenize schema (front ++ back) = tokenize schema front := by
  obtain ⟨error, stopped, present⟩ := broken
  induction front using arguments_induction schema with
  | nil => cases stopped
  | ended tail =>
    rw [tokenize_ended] at stopped
    cases stopped
  | complete argument rest tokens other scanned ih =>
    rw [tokenize_complete other scanned] at stopped
    rw [List.cons_append, tokenize_complete other scanned, tokenize_complete other scanned,
      ih stopped]
  | failed argument rest tokens error other scanned =>
    rw [List.cons_append, tokenize_failed other scanned, tokenize_failed other scanned]
  | missing argument tokens spec written other scanned =>
    rw [tokenize_missing other scanned] at stopped
    cases stopped
    exact absurd rfl (present written)
  | waiting argument value rest tokens spec written other scanned ih =>
    rw [tokenize_waiting other scanned] at stopped
    rw [List.cons_append, List.cons_append, tokenize_waiting other scanned,
      tokenize_waiting other scanned, ih stopped]

variable {env : Environment} {interactive : Bool}

/-- Arguments from which the same is read but for notices end in the same failure, or in the same
configuration but for the text of the command line. -/
theorem build_eq_of_sameButNotices {given arguments : List String}
    (same : Draft.SameButNotices
      ((Draft.initial given env.now env.workingDirectory).applyArguments env given).outcome
      ((Draft.initial given env.now env.workingDirectory).applyArguments env arguments).outcome) :
    (build env interactive arguments).outcome =
      (build env interactive given).outcome.map (·.withCommandLine (commandText arguments)) := by
  have ended : (build env interactive given).outcome =
      (((Draft.initial given env.now env.workingDirectory).applyArguments env given).closed env
        interactive).outcome := rfl
  rw [ended, build_eq_closed env interactive given arguments]
  simp only [Run.map, closed_outcome, same.close_eq interactive]

/-- An option whose effect does not add up may be repeated directly behind itself, however it is
written and whatever stands around it: the run fails as before, or makes the configuration that it
made before, the text of the command line apart. -/
theorem build_repeat (env : Environment) (interactive : Bool) :
    ∀ spec ∈ table, spec.long ∉ accumulating → ∀ value row, Alone row ⟨spec.meaning, value⟩ →
      ∀ front back, LeavesOpen front ∨ Broken front →
        (build env interactive (front ++ (row ++ row) ++ back)).outcome =
          (build env interactive (front ++ row ++ back)).outcome.map
            (·.withCommandLine (commandText (front ++ (row ++ row) ++ back))) := by
  intro spec member other value row alone front back position
  have harmless : spec.meaning.accumulates = false :=
    Bool.eq_false_iff.mpr (mt (accumulates_iff member).mp other)
  refine build_eq_of_sameButNotices ?_
  rcases position with leavesOpen | broken
  · obtain ⟨once, single⟩ := alone.selfContained
    obtain ⟨twice, double⟩ := once.append once
    obtain ⟨onceOptions, oncePaths, onceError⟩ := read_within leavesOpen once back
    obtain ⟨twiceOptions, twicePaths, twiceError⟩ := read_within leavesOpen twice back
    refine Draft.applyArguments_sameButNotices ?_ (oncePaths.trans twicePaths.symm)
      (onceError.trans twiceError.symm)
    rw [onceOptions, twiceOptions, double, single]
    exact Draft.applyHistory_repeat harmless (history front) (history back) _
  · simp only [List.append_assoc, Draft.applyArguments, broken.tokenize_append]
    exact .refl _

/-- Lint types with a reset and a name that is not applied, between options for directories and
hidden files. -/
theorem build_repeat_types :
    ∃ config,
      (build .stampFiles true ["-D", "/music", "-T", "none,+dd,zz", "-R"]).outcome = .ok config ∧
        (build .stampFiles true
          ["-D", "/music", "-T", "none,+dd,zz", "-T", "none,+dd,zz", "-R"]).outcome =
            .ok (config.withCommandLine
              "dupelint -D /music -T none,+dd,zz -T none,+dd,zz -R") := by
  have member : valued "types" "T" "T" "Specify lint types" .types ∈ table := by simp [table]
  have named : Argument schema "-T" [] (some (valued "types" "T" "T" "Specify lint types" .types)) :=
    .cluster (List.cons_ne_nil 'T' []) (.waiting member rfl rfl)
  have alone : Alone ["-T", "none,+dd,zz"] ⟨.types, "none,+dd,zz"⟩ :=
    .waiting "none,+dd,zz" named
  have leavesOpen : LeavesOpen ["-D", "/music"] := ⟨by decide +kernel, by decide +kernel⟩
  have success : (build .stampFiles true
      ["-D", "/music", "-T", "none,+dd,zz", "-R"]).outcome.isOk = true := by
    decide +kernel
  obtain ⟨config, made⟩ := eq_ok_of_isOk success
  refine ⟨config, made, ?_⟩
  have repeated := build_repeat .stampFiles true _ member (by decide) _ _ alone _ ["-R"]
    (.inl leavesOpen)
  exact repeated.trans (congrArg (Except.map _) made)

end ScanSetup
