import ScanSetup.Proofs.Run.CommandText
import ScanSetup.Proofs.Run.Outputs
import ScanSetup.Proofs.Token.Writing

set_option autoImplicit false

namespace ScanSetup

open Options

def writesOf (occurrences : List Occurrence) : List Field :=
  occurrences.flatMap (·.effect.writes)

def readsOf (occurrences : List Occurrence) : List Field := .referenceTime :: writesOf occurrences

/-- None of the first options writes a field that one of the second writes. -/
def Apart (first second : List Occurrence) : Prop :=
  ∀ field ∈ writesOf first, field ∉ writesOf second

theorem Apart.symm {first second : List Occurrence} (apart : Apart first second) :
    Apart second first := fun field inSecond inFirst => apart field inFirst inSecond

theorem referenceTime_not_written (occurrences : List Occurrence) :
    Field.referenceTime ∉ writesOf occurrences := by
  intro member
  obtain ⟨o, -, written⟩ := List.mem_flatMap.mp member
  exact o.effect.referenceTime_not_mem_writes written

theorem reads_subset_readsOf {o : Occurrence} {occurrences : List Occurrence}
    (member : o ∈ occurrences) : o.effect.reads ⊆ readsOf occurrences :=
  List.cons_subset_cons _ fun _ written => List.mem_flatMap.mpr ⟨o, member, written⟩

namespace Draft

variable {a b d last : Draft} {env : Environment} {fields : List Field}
variable {front first second back occurrences : List Occurrence}

theorem applyHistory_get_eq {field : Field} (apart : field ∉ writesOf occurrences)
    (success : d.applyHistory env occurrences = .ok last) : last.get field = d.get field := by
  induction occurrences generalizing d with
  | nil =>
    cases success
    rfl
  | cons o rest ih =>
    rw [writesOf, List.flatMap_cons, List.mem_append, not_or] at apart
    unfold applyHistory at success
    split at success
    · cases success
    · rename_i next applied
      exact (ih apart.2 success).trans ((change_of_apply applied).get_eq apart.1)

theorem applyHistory_parallel (read : ∀ o ∈ occurrences, o.effect.reads ⊆ fields)
    (agree : AgreeOn fields a b) :
    Parallel fields a b (a.applyHistory env occurrences) (b.applyHistory env occurrences) := by
  induction occurrences generalizing a b with
  | nil => exact .applied [] agree (List.append_nil _).symm (List.append_nil _).symm
  | cons o rest ih =>
    obtain ⟨own, others⟩ := List.forall_mem_cons.mp read
    have step : Parallel fields a b (o.apply env a) (o.apply env b) :=
      apply_parallel_of_subset own agree
    simp only [applyHistory]
    generalize o.apply env a = one at step ⊢
    generalize o.apply env b = other at step ⊢
    cases step with
    | failed failure => exact .failed failure
    | applied noted same firstNotices secondNotices =>
      exact (ih others same).behind firstNotices secondNotices

theorem applyHistory_behind (apart : Apart first second)
    (reached : d.applyHistory env first = .ok last) :
    Parallel (readsOf second) d last (d.applyHistory env second)
      (last.applyHistory env second) := by
  refine applyHistory_parallel (fun o => reads_subset_readsOf) fun field member => ?_
  refine (applyHistory_get_eq (fun written => ?_) reached).symm
  rcases List.mem_cons.mp member with rfl | read
  · exact referenceTime_not_written first written
  · exact apart field written read

/-- Options that write different fields commute up to the order of their notices. -/
theorem applyHistory_exchange (apart : Apart first second)
    (success : d.applyHistory env (first ++ second) = .ok last) :
    ∃ other, d.applyHistory env (second ++ first) = .ok other ∧ AgreeOn Field.all last other := by
  obtain ⟨middle, firstAlone, behind⟩ := applyHistory_append_eq_ok.mp success
  -- The second options succeed without the first ones, and then these behind them.
  have secondMoved := applyHistory_behind apart firstAlone
  rw [behind] at secondMoved
  obtain ⟨opposite, -, secondAlone, sameSecond, -⟩ := secondMoved.symm.of_ok
  have firstMoved := applyHistory_behind apart.symm secondAlone
  rw [firstAlone] at firstMoved
  obtain ⟨other, -, applied, sameFirst, -⟩ := firstMoved.of_ok
  refine ⟨other, applyHistory_append_eq_ok.mpr ⟨opposite, secondAlone, applied⟩, ?_⟩
  intro field _
  by_cases inFirst : field ∈ writesOf first
  · rw [applyHistory_get_eq (apart field inFirst) behind]
    exact sameFirst field (List.mem_cons_of_mem _ inFirst)
  · rw [applyHistory_get_eq inFirst applied]
    by_cases inSecond : field ∈ writesOf second
    · exact sameSecond field (List.mem_cons_of_mem _ inSecond)
    · rw [applyHistory_get_eq inSecond behind, applyHistory_get_eq inFirst firstAlone,
        applyHistory_get_eq inSecond secondAlone]

/-- Options in front and behind do not matter to an exchange. -/
theorem applyHistory_exchange_within (apart : Apart first second)
    (success : d.applyHistory env (front ++ (first ++ second) ++ back) = .ok last) :
    ∃ other, d.applyHistory env (front ++ (second ++ first) ++ back) = .ok other ∧
      AgreeOn Field.all last other := by
  obtain ⟨next, before, behind⟩ := applyHistory_append_eq_ok.mp success
  obtain ⟨middle, reached, through⟩ := applyHistory_append_eq_ok.mp before
  obtain ⟨moved, exchanged, same⟩ := applyHistory_exchange apart through
  have alike : Parallel Field.all next moved (next.applyHistory env back)
      (moved.applyHistory env back) := applyHistory_parallel (fun o _ field _ => field.mem_all) same
  rw [behind] at alike
  obtain ⟨other, -, applied, sameLast, -⟩ := alike.of_ok
  have again := applyHistory_append_eq_ok.mpr ⟨middle, reached, exchanged⟩
  exact ⟨other, applyHistory_append_eq_ok.mpr ⟨moved, again, applied⟩, sameLast⟩

end Draft

/-- Arguments behind these are read as they are on their own. -/
structure LeavesOpen (arguments : List String) : Prop where
  read : (tokenize schema arguments).error? = none
  plain : endsOptions schema arguments = false

/-- Arguments that are nothing but options with their values, wherever they stand. -/
structure SelfContained (arguments : List String) : Prop extends LeavesOpen arguments where
  pathless : pathArguments arguments = []

namespace LeavesOpen

variable {front : List String} (leavesOpen : LeavesOpen front) (back : List String)

include leavesOpen

theorem tokenize_append :
    tokenize schema (front ++ back) =
      (tokenize schema back).after (tokenize schema front).list :=
  (read_append back leavesOpen.read leavesOpen.plain).1

theorem history_append : history (front ++ back) = history front ++ history back := by
  rw [history, leavesOpen.tokenize_append, Tokens.after, List.filterMap_append]
  rfl

theorem pathArguments_append :
    pathArguments (front ++ back) = pathArguments front ++ pathArguments back := by
  rw [pathArguments, leavesOpen.tokenize_append, Tokens.after, List.filterMap_append]
  rfl

theorem error?_append :
    (tokenize schema (front ++ back)).error? = (tokenize schema back).error? := by
  rw [leavesOpen.tokenize_append]
  rfl

end LeavesOpen

theorem LeavesOpen.append {front back : List String} (first : LeavesOpen front)
    (second : LeavesOpen back) : LeavesOpen (front ++ back) where
  read := (first.error?_append back).trans second.read
  plain := by rw [(read_append back first.read first.plain).2, second.plain]

/-- One option with its value, in each of its written forms. -/
inductive Alone : List String → Occurrence → Prop
  | complete {argument : String} {spec : Spec Effect} {value : String}
      (written : Argument schema argument [.option spec value] none) :
      Alone [argument] ⟨spec.meaning, value⟩
  | waiting {argument : String} {spec : Spec Effect} (value : String)
      (written : Argument schema argument [] (some spec)) :
      Alone [argument, value] ⟨spec.meaning, value⟩

theorem Alone.selfContained {arguments : List String} {o : Occurrence}
    (alone : Alone arguments o) : SelfContained arguments ∧ history arguments = [o] := by
  cases alone with
  | complete written =>
    have other := written.ne_endOfOptions schema_regular
    obtain ⟨tokens, scanned, same⟩ :=
      Scan.yields_none.mp ((argument_iff schema_regular _ _ _).mp written)
    obtain ⟨token, rfl, item⟩ := List.map_eq_singleton_iff.mp same
    obtain ⟨read, plain⟩ := read_complete other scanned
    have tokens := tokenize_complete other scanned []
    cases token with
    | path path => cases item
    | option spec value name =>
      cases item
      refine ⟨⟨⟨read, plain⟩, ?_⟩, ?_⟩
      · rw [pathArguments, tokens]
        rfl
      · rw [history, tokens]
        rfl
  | waiting value written =>
    have other := written.ne_endOfOptions schema_regular
    obtain ⟨tokens, name, scanned, same⟩ :=
      Scan.yields_some.mp ((argument_iff schema_regular _ _ _).mp written)
    cases List.map_eq_nil_iff.mp same
    obtain ⟨read, plain⟩ := read_waiting other scanned value
    have tokens := tokenize_waiting other scanned value []
    refine ⟨⟨⟨read, plain⟩, ?_⟩, ?_⟩
    · rw [pathArguments, tokens]
      rfl
    · rw [history, tokens]
      rfl

variable {env : Environment} {interactive : Bool} {front first second : List String}
variable {config : Configuration}

theorem closed_outcome (run : Run Draft) :
    (run.closed env interactive).outcome =
      (run.outcome.bind fun draft => draft.close env interactive).map Prod.fst := by
  unfold Run.closed
  cases run.outcome with
  | error failure => rfl
  | ok draft =>
    dsimp only [Except.bind]
    cases draft.close env interactive with
    | error failure => rfl
    | ok closed => rfl

/-- A row of self-contained arguments adds its options to those around it, and no path. -/
theorem read_within (leavesOpen : LeavesOpen front) (row : SelfContained first)
    (back : List String) :
    history (front ++ first ++ back) = history front ++ history first ++ history back ∧
      pathArguments (front ++ first ++ back) = pathArguments front ++ pathArguments back ∧
      (tokenize schema (front ++ first ++ back)).error? = (tokenize schema back).error? := by
  have through := leavesOpen.append row.toLeavesOpen
  refine ⟨?_, ?_, through.error?_append back⟩
  · rw [through.history_append, leavesOpen.history_append]
  · rw [through.pathArguments_append, leavesOpen.pathArguments_append, row.pathless,
      List.append_nil]

theorem SelfContained.append (firstAlone : SelfContained first)
    (secondAlone : SelfContained second) :
    SelfContained (first ++ second) ∧
      history (first ++ second) = history first ++ history second where
  left :=
    { firstAlone.toLeavesOpen.append secondAlone.toLeavesOpen with
      pathless := by
        rw [firstAlone.pathArguments_append, firstAlone.pathless, secondAlone.pathless,
          List.nil_append] }
  right := firstAlone.history_append second

/-- A run that succeeds does so with two rows of options exchanged, and makes the same
configuration. -/
theorem build_exchange_of_ok (leavesOpen : LeavesOpen front) (firstAlone : SelfContained first)
    (secondAlone : SelfContained second) (apart : Apart (history first) (history second))
    (back : List String)
    (success : (build env interactive (front ++ (first ++ second) ++ back)).outcome = .ok config) :
    (build env interactive (front ++ (second ++ first) ++ back)).outcome =
      .ok (config.withCommandLine (commandText (front ++ (second ++ first) ++ back))) := by
  obtain ⟨givenRow, givenHistory⟩ := firstAlone.append secondAlone
  obtain ⟨movedRow, movedHistory⟩ := secondAlone.append firstAlone
  obtain ⟨givenOptions, givenPaths, givenError⟩ := read_within leavesOpen givenRow back
  obtain ⟨movedOptions, movedPaths, movedError⟩ := read_within leavesOpen movedRow back
  rw [givenHistory] at givenOptions
  rw [movedHistory] at movedOptions
  generalize front ++ (first ++ second) ++ back = given at *
  generalize front ++ (second ++ first) ++ back = moved at *
  let start := Draft.initial given env.now env.workingDirectory
  have ended : ((start.applyArguments env given).closed env interactive).outcome = .ok config :=
    success
  rw [build_eq_closed env interactive given moved]
  suffices same : ((start.applyArguments env moved).closed env interactive).outcome = .ok config by
    rw [Run.map, same]
    rfl
  rw [closed_outcome] at ended ⊢
  cases made : (start.applyArguments env given).outcome with
  | error failure =>
    rw [made] at ended
    cases ended
  | ok draft =>
    obtain ⟨last, applied, rfl⟩ := Draft.applyArguments_eq_ok made
    rw [givenOptions] at applied
    obtain ⟨other, exchanged, same⟩ := Draft.applyHistory_exchange_within apart applied
    rw [← movedOptions] at exchanged
    have read := Draft.error?_of_applied made
    rw [givenError, ← movedError] at read
    rw [Draft.applyArguments_of_applied read exchanged, movedPaths, ← givenPaths]
    rw [made] at ended
    have located := same.withPositionals (start.positionals ++ pathArguments given)
    simp only [Except.bind, Draft.close_eq_of_agree located] at ended ⊢
    exact ended

theorem build_exchange_of_error (leavesOpen : LeavesOpen front) (firstAlone : SelfContained first)
    (secondAlone : SelfContained second) (apart : Apart (history first) (history second))
    (back : List String) :
    (∃ failure,
      (build env interactive (front ++ (first ++ second) ++ back)).outcome = .error failure) →
    ∃ failure,
      (build env interactive (front ++ (second ++ first) ++ back)).outcome = .error failure := by
  rintro ⟨failure, failed⟩
  cases moved : (build env interactive (front ++ (second ++ first) ++ back)).outcome with
  | error other => exact ⟨other, rfl⟩
  | ok config =>
    have restored := build_exchange_of_ok leavesOpen secondAlone firstAlone apart.symm back moved
    rw [failed] at restored
    cases restored

/-- Some draft holds another value in the field once the option is applied. -/
def Options.Effect.MayWrite (effect : Effect) (field : Field) : Prop :=
  ∃ env value d next, effect.apply env value d = .ok next ∧ next.get field ≠ d.get field

def trialValues : List String :=
  ["7", "1-2", "all", "none", "md5", "csv:key", "/civil.stamp"]

/-- Drafts that options are tried on: with every switch off, and on. -/
def trialDrafts : List Draft :=
  [false, true].map fun on => Draft.atRoot.update ({ · with switches := fun _ => on })

theorem table_moves :
    (table.all fun spec => spec.meaning.writes.all fun field => trialDrafts.any fun d =>
      trialValues.any fun value => spec.meaning.moves .stampFiles value d field) = true := by
  decide +kernel

/-- The write sets of the table are exact: a field is in the set of an option exactly if the option
may write it. -/
theorem mem_writes_iff {spec : Spec Effect} (member : spec ∈ table) (field : Field) :
    field ∈ spec.meaning.writes ↔ spec.meaning.MayWrite field := by
  constructor
  · intro written
    have shown := List.all_eq_true.mp (List.all_eq_true.mp table_moves spec member) field written
    obtain ⟨d, -, tried⟩ := List.any_eq_true.mp shown
    obtain ⟨value, -, moved⟩ := List.any_eq_true.mp tried
    obtain ⟨next, applied, differs⟩ := Draft.exists_of_moves moved
    exact ⟨.stampFiles, value, d, next, applied, differs⟩
  · rintro ⟨env, value, d, next, applied, differs⟩
    by_contra unwritten
    exact differs ((Draft.change_of_apply applied).get_eq unwritten)

/-- Adjacent options that write different fields can be exchanged: a run with them fails in both
orders, or makes the same configuration in both, the text of the command line apart. The sets of
written fields are exact, and one option with its value is self-contained, however it is written. -/
theorem build_exchange (env : Environment) (interactive : Bool) :
    (∀ spec ∈ table, ∀ field, field ∈ spec.meaning.writes ↔ spec.meaning.MayWrite field) ∧
    (∀ arguments o, Alone arguments o → SelfContained arguments ∧ history arguments = [o]) ∧
    ∀ front first second back, LeavesOpen front → SelfContained first → SelfContained second →
      Apart (history first) (history second) →
      let given := front ++ (first ++ second) ++ back
      let exchanged := front ++ (second ++ first) ++ back
      ((∃ failure, (build env interactive given).outcome = .error failure) ↔
        ∃ failure, (build env interactive exchanged).outcome = .error failure) ∧
      ∀ config, (build env interactive given).outcome = .ok config →
        (build env interactive exchanged).outcome =
          .ok (config.withCommandLine (commandText exchanged)) := by
  refine ⟨fun spec => mem_writes_iff, fun _ _ => Alone.selfContained, ?_⟩
  intro front first second back leavesOpen firstAlone secondAlone apart given exchanged
  refine ⟨⟨?_, ?_⟩, fun config => build_exchange_of_ok leavesOpen firstAlone secondAlone apart back⟩
  · exact build_exchange_of_error leavesOpen firstAlone secondAlone apart back
  · exact build_exchange_of_error leavesOpen secondAlone firstAlone apart.symm back

/-- A run over lint types and a stamp file, which touch switches that options around them set. -/
theorem build_exchange_stampArguments :
    LeavesOpen ["-D", "/music"] ∧ SelfContained ["-T", "all,-dd"] ∧
      SelfContained ["--newer-than-stamp=/civil.stamp"] ∧
      Apart (history ["-T", "all,-dd"]) (history ["--newer-than-stamp=/civil.stamp"]) ∧
      ∃ config,
        (build .stampFiles true
          ["-D", "/music", "-T", "all,-dd", "--newer-than-stamp=/civil.stamp", "-R"]).outcome =
            .ok config ∧
        (build .stampFiles true
          ["-D", "/music", "--newer-than-stamp=/civil.stamp", "-T", "all,-dd", "-R"]).outcome =
            .ok (config.withCommandLine
              "dupelint -D /music --newer-than-stamp=/civil.stamp -T all,-dd -R") := by
  have leavesOpen : LeavesOpen ["-D", "/music"] := ⟨by decide +kernel, by decide +kernel⟩
  have types : SelfContained ["-T", "all,-dd"] :=
    ⟨⟨by decide +kernel, by decide +kernel⟩, by decide +kernel⟩
  have stamp : SelfContained ["--newer-than-stamp=/civil.stamp"] :=
    ⟨⟨by decide +kernel, by decide +kernel⟩, by decide +kernel⟩
  have apart : Apart (history ["-T", "all,-dd"]) (history ["--newer-than-stamp=/civil.stamp"]) := by
    unfold Apart
    decide +kernel
  have success : (build .stampFiles true
      ["-D", "/music", "-T", "all,-dd", "--newer-than-stamp=/civil.stamp", "-R"]).outcome.isOk =
        true := by
    decide +kernel
  obtain ⟨config, made⟩ := eq_ok_of_isOk success
  have exchange := (build_exchange .stampFiles true).2.2
  exact ⟨leavesOpen, types, stamp, apart, config, made,
    (exchange _ _ _ ["-R"] leavesOpen types stamp apart).2 config made⟩

end ScanSetup
