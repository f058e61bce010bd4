import ScanSetup.Proofs.Draft.Footprint
import ScanSetup.Proofs.Draft.Values
import ScanSetup.Proofs.Run.CommandText
import ScanSetup.Proofs.Run.Outputs
import ScanSetup.Proofs.Time.Instant

set_option autoImplicit false

namespace ScanSetup

open Options Number

/-- Two worlds that may differ in their clocks and terminals. -/
structure Environment.SameWorld (env other : Environment) : Prop where
  workingDirectory : env.workingDirectory = other.workingDirectory
  lookup : env.lookup = other.lookup
  stdin : env.stdin = other.stdin

theorem Environment.SameWorld.eq {env other : Environment} (same : env.SameWorld other) :
    other =
      { env with
        now := other.now
        outputIsTerminal := other.outputIsTerminal
        errorIsTerminal := other.errorIsTerminal } := by
  rw [same.workingDirectory, same.lookup, same.stdin]

/-- The notice that an option leaves if its point in time lies in the future of a clock. -/
def futureNotices (now : Binary64) (option spec : String) : List String :=
  match Time.parseStamp now spec, Time.instantText now with
  | .ok stamp, .ok text =>
    if stamp.inFuture then
      [option ++ " " ++ spec ++ " is newer than current time (" ++ text ++ ")."]
    else []
  | _, _ => []

/-- Two logs that are the same but for the notices about the future, each under its own clock. -/
inductive SameLog (now later : Binary64) : List LogEntry → List LogEntry → Prop
  | nil : SameLog now later [] []
  | cons {first second : List LogEntry} (entry : LogEntry) (rest : SameLog now later first second) :
      SameLog now later (entry :: first) (entry :: second)
  | future {first second : List LogEntry} (option spec : String)
      (rest : SameLog now later first second) :
      SameLog now later ((futureNotices now option spec).map .warning ++ first)
        ((futureNotices later option spec).map .warning ++ second)

namespace SameLog

variable {now later : Binary64} {first second front back : List LogEntry}

theorem refl (log : List LogEntry) : SameLog now later log log := by
  induction log with
  | nil => exact .nil
  | cons entry rest ih => exact .cons entry ih

theorem append (fronts : SameLog now later first second) (backs : SameLog now later front back) :
    SameLog now later (first ++ front) (second ++ back) := by
  induction fronts with
  | nil => exact backs
  | cons entry rest ih => exact .cons entry ih
  | future option spec rest ih =>
    rw [List.append_assoc, List.append_assoc]
    exact .future option spec ih

end SameLog

def Configuration.withColor (c : Configuration) (on : Bool) : Configuration :=
  { c with settings := c.settings.withSwitch .color on }

namespace Draft

/-- Two results under two clocks: the same failure, or drafts that agree on some fields and have
noted the same but for the future. -/
inductive Clocked (fields : List Field) (a b : Draft) :
    Except Failure Draft → Except Failure Draft → Prop
  | failed (failure : Failure) : Clocked fields a b (.error failure) (.error failure)
  | applied {first second : Draft} {noted others : List String}
      (agree : AgreeOn fields first second) (firstNotices : first.notices = a.notices ++ noted)
      (secondNotices : second.notices = b.notices ++ others)
      (alike : SameLog a.referenceTime b.referenceTime (noted.map .warning)
        (others.map .warning)) :
      Clocked fields a b (.ok first) (.ok second)

variable {a b d : Draft} {fields : List Field} {env other : Environment} {value : String}

theorem Parallel.clocked {one two : Except Failure Draft} (alike : Parallel fields a b one two) :
    Clocked fields a b one two := by
  cases alike with
  | failed failure => exact .failed failure
  | applied noted agree firstNotices secondNotices =>
    exact .applied agree firstNotices secondNotices (.refl _)

/-- An instant of the calendar has a written form, so a filter fails only where its text is read,
and the clock decides about nothing but the notice. -/
theorem filterNewer_eq (inside : Time.InCalendar d.referenceTime) (option spec : String) :
    d.filterNewer option spec =
      match Time.readInstant spec with
      | .error (.unparsable spec) => .error (.config (.unparsableTime spec))
      | .error (.plain fault) => .error (.fault (.plain fault))
      | .ok instant =>
        .ok { d.update ({ · with timeFilter := ⟨true, instant⟩ }) with
          notices := d.notices ++ futureNotices d.referenceTime option spec } := by
  obtain ⟨text, written⟩ := Time.instantText_eq_ok inside
  unfold filterNewer futureNotices
  rw [Time.parseStamp_eq, written]
  cases Time.readInstant spec with
  | error fault => cases fault <;> rfl
  | ok instant =>
    simp only [Except.map]
    split
    · rfl
    · rw [List.append_nil]
      rfl

theorem filterNewer_clocked (option spec : String) (agree : AgreeOn fields a b)
    (first : Time.InCalendar a.referenceTime) (second : Time.InCalendar b.referenceTime) :
    Clocked (.timeFilter :: fields) a b (a.filterNewer option spec)
      (b.filterNewer option spec) := by
  have future : SameLog a.referenceTime b.referenceTime
      ((futureNotices a.referenceTime option spec).map .warning)
      ((futureNotices b.referenceTime option spec).map .warning) := by
    simpa only [List.append_nil] using SameLog.future option spec .nil
  rw [filterNewer_eq first, filterNewer_eq second]
  cases Time.readInstant spec with
  | error fault => cases fault <;> exact .failed _
  | ok instant => exact .applied (agree.filtered _) rfl rfl future

theorem filterNewerThanFile_clocked (path : String)
    (agree : AgreeOn Effect.newerThanStamp.writes a b)
    (first : Time.InCalendar a.referenceTime) (second : Time.InCalendar b.referenceTime) :
    Clocked Effect.newerThanStamp.writes a b (a.filterNewerThanFile env path)
      (b.filterNewerThanFile env path) := by
  have own : AgreeOn [.outputs, .outputConfig] a b := (agreeOn_cons.mp agree).2
  have cleared := own.filtered .off
  unfold filterNewerThanFile
  dsimp only
  split
  · exact .failed _
  · exact .applied cleared rfl rfl (.refl _)
  · rename_i stamp read
    have alike := filterNewer_clocked "--newer-than-stamp" stamp (agreeOn_cons.mp cleared).2
      first second
    generalize (a.update _).filterNewer "--newer-than-stamp" stamp = one at alike ⊢
    generalize (b.update _).filterNewer "--newer-than-stamp" stamp = two at alike ⊢
    cases alike with
    | failed failure => exact .failed failure
    | applied both firstNotices secondNotices alike =>
      refine .applied both.registered ?_ ?_ alike
      · rw [registered_notices, firstNotices]
        rfl
      · rw [registered_notices, secondNotices]
        rfl

/-- Drafts that differ in the reference time alone are changed alike under both clocks. -/
theorem apply_clocked (effect : Effect) (env : Environment) (value : String)
    (agree : AgreeOn Field.referenceTime.others a b)
    (first : Time.InCalendar a.referenceTime) (second : Time.InCalendar b.referenceTime) :
    Clocked Field.referenceTime.others a b (effect.apply env value a)
      (effect.apply env value b) := by
  have timeless : effect.writes ⊆ Field.referenceTime.others := fun field written =>
    Field.mem_others.mpr fun same => effect.referenceTime_not_mem_writes (same ▸ written)
  have own := agree.mono timeless
  have alike : Clocked effect.writes a b (effect.apply env value a) (effect.apply env value b) := by
    cases asks : effect.asksTime with
    | false => exact (apply_parallel_untimed effect env value asks own).clocked
    | true =>
      cases effect with
      | newerThanStamp => exact filterNewerThanFile_clocked value own first second
      | newerThan => exact filterNewer_clocked "--newer-than" value agreeOn_nil first second
      | _ => cases asks
  generalize one : effect.apply env value a = result at alike ⊢
  generalize two : effect.apply env value b = result' at alike ⊢
  cases alike with
  | failed failure => exact .failed failure
  | applied written firstNotices secondNotices same =>
    exact .applied (agree.framed one two written) firstNotices secondNotices same

theorem apply_sameWorld (same : env.SameWorld other) (effect : Effect) (value : String)
    (d : Draft) : effect.apply other value d = effect.apply env value d := by
  rw [same.eq]
  cases effect <;> rfl

theorem report_sameLog {next after : Draft} {noted others : List String} {Meaning : Type}
    (spec : Spec Meaning) (level : next.verbosityCount = after.verbosityCount)
    (firstNotices : next.notices = a.notices ++ noted)
    (secondNotices : after.notices = b.notices ++ others)
    (alike : SameLog a.referenceTime b.referenceTime (noted.map .warning)
      (others.map .warning)) :
    SameLog a.referenceTime b.referenceTime (a.report next spec value)
      (b.report after spec value) := by
  simp only [report, verbosity, level, firstNotices, secondNotices, List.drop_left, warnings]
  refine (SameLog.refl _).append ?_
  split
  · exact alike
  · exact .nil

/-- The ends of two runs of options: the same failure, or drafts that differ in the reference time
and in what they have noted. -/
inductive SameEnd : Except Failure Draft → Except Failure Draft → Prop
  | failed (failure : Failure) : SameEnd (.error failure) (.error failure)
  | ended {first second : Draft} (agree : AgreeOn Field.referenceTime.others first second) :
      SameEnd (.ok first) (.ok second)

theorem applyTokens_clocked (same : env.SameWorld other) (error? : Option UsageError)
    (paths : List String) (tokens : List (Token Effect))
    (agree : AgreeOn Field.referenceTime.others a b)
    (first : Time.InCalendar a.referenceTime) (second : Time.InCalendar b.referenceTime) :
    SameLog a.referenceTime b.referenceTime (a.applyTokens env error? paths tokens).log
        (b.applyTokens other error? paths tokens).log ∧
      SameEnd (a.applyTokens env error? paths tokens).outcome
        (b.applyTokens other error? paths tokens).outcome := by
  -- In lock step: neither draft ever changes its reference time, so both stay in the calendar.
  induction tokens generalizing a b paths with
  | nil =>
    cases error? with
    | none => exact ⟨.nil, .ended (agree.withPositionals paths)⟩
    | some error => exact ⟨.nil, .failed _⟩
  | cons token rest ih =>
    cases token with
    | path value => exact ih (paths ++ [value]) agree first second
    | option spec value written =>
      have alike := apply_clocked spec.meaning env value agree first second
      simp only [applyTokens, apply_sameWorld same]
      generalize one : spec.meaning.apply env value a = result at alike ⊢
      generalize two : spec.meaning.apply env value b = result' at alike ⊢
      cases alike with
      | failed failure => exact ⟨.nil, .failed failure⟩
      | @applied next after noted others both firstNotices secondNotices notes =>
        have firstTime : next.referenceTime = a.referenceTime :=
          (change_of_apply one).referenceTime_eq
        have secondTime : after.referenceTime = b.referenceTime :=
          (change_of_apply two).referenceTime_eq
        have level : next.verbosityCount = after.verbosityCount :=
          both .verbosityCount (Field.mem_others.mpr (by simp))
        obtain ⟨log, ended⟩ := ih paths both (firstTime ▸ first) (secondTime ▸ second)
        rw [firstTime, secondTime] at log
        exact ⟨(report_sameLog spec level firstNotices secondNotices notes).append log, ended⟩

theorem configuration_terminals (d : Draft) (interactive shown : Bool) (paths : List PathEntry)
    (sinks : List Sink) :
    d.configuration shown paths sinks =
      (d.configuration interactive paths sinks).withColor
        (d.settings.switches .color && shown) := by
  have switches : d.settings.switches.set .color (d.settings.switches .color && shown) =
      (d.settings.switches.set .color (d.settings.switches .color && interactive)).set .color
        (d.settings.switches .color && shown) := by
    funext target
    by_cases color : target = .color <;> simp [Switches.set, color]
  simp only [configuration, Configuration.withColor, Settings.withSwitch, ← switches]

/-- Terminals decide about the colour of a configuration and about nothing else. -/
theorem close_terminals (d : Draft) (env : Environment) (interactive shown : Bool) :
    d.close env shown =
      (d.close env interactive).map fun closed =>
        (closed.1.withColor (d.settings.switches .color && shown), closed.2) :=
  close_map (·.withColor (d.settings.switches .color && shown)) rfl rfl rfl rfl
    (d.configuration_terminals interactive shown) fun _ => rfl

theorem close_sameWorld (same : env.SameWorld other) (d : Draft) (interactive : Bool) :
    d.close other interactive = d.close env interactive := by
  rw [same.eq]
  rfl

end Draft

theorem Configuration.withColor_self {c : Configuration} {on : Bool}
    (color : c.settings.switches .color = on) : c.withColor on = c := by
  have switches : c.settings.switches.set .color on = c.settings.switches := by
    funext target
    by_cases here : target = .color <;> simp [Switches.set, here, color]
  rw [withColor, Settings.withSwitch, switches]

/-- How two runs end whose options left `ended?` in the first: with the same failure, or with
configurations that are the same but for the colour. That is the one of the draft on terminals, and
off elsewhere. -/
def SameVerdict (ended? : Except Failure Draft) (interactive shown : Bool)
    (first second : Except Failure Configuration) : Prop :=
  (∃ failure, first = .error failure ∧ second = .error failure) ∨
    ∃ draft config, ended? = .ok draft ∧ first = .ok config ∧
      config.settings.switches .color = (draft.settings.switches .color && interactive) ∧
      second = .ok (config.withColor (draft.settings.switches .color && shown)) ∧
      (interactive = shown ∨ draft.settings.switches .color = false → second = first)

theorem closed_clocked {env other : Environment} {now later : Binary64} {one two : Run Draft}
    (same : env.SameWorld other) (log : SameLog now later one.log two.log)
    (ended : Draft.SameEnd one.outcome two.outcome) (interactive shown : Bool) :
    SameLog now later (one.closed env interactive).log (two.closed other shown).log ∧
      SameVerdict one.outcome interactive shown (one.closed env interactive).outcome
        (two.closed other shown).outcome := by
  obtain ⟨front, outcome⟩ := one
  obtain ⟨front', outcome'⟩ := two
  cases ended with
  | failed failure => exact ⟨log, Or.inl ⟨failure, rfl, rfl⟩⟩
  | @ended draft after agree =>
    have level : after.verbosity = draft.verbosity := congrArg Verbosity.ofCount
      (agree .verbosityCount (Field.mem_others.mpr (by simp))).symm
    have closed : after.close other shown =
        (draft.close env interactive).map fun closed =>
          (closed.1.withColor (draft.settings.switches .color && shown), closed.2) := by
      rw [Draft.close_sameWorld same, ← Draft.close_eq_of_timeless agree,
        Draft.close_terminals draft env interactive]
    simp only [Run.closed, closed, level]
    cases made : draft.close env interactive with
    | error failure => exact ⟨log.append (.refl _), Or.inl ⟨failure, rfl, rfl⟩⟩
    | ok result =>
      obtain ⟨config, notices⟩ := result
      obtain ⟨-, list, sinks, -, -, rfl, rfl⟩ := Draft.close_eq_ok made
      refine ⟨log.append (.refl _), Or.inr ⟨draft, _, rfl, rfl, rfl, rfl, fun alike => ?_⟩⟩
      refine congrArg Except.ok (Configuration.withColor_self ?_)
      rcases alike with rfl | off
      · rfl
      · change (draft.settings.switches .color && interactive) = _
        rw [off]
        rfl

/-- Runs in two worlds that differ in their clocks and terminals alone, both clocks between 1970 and
9999: they end with the same failure, or with configurations that are the same but for the colour,
which is the same too if the terminals are alike or the colours are off. Their logs are the same but
for the notices about points in time in the future of a clock. -/
theorem build_clock {env other : Environment} (same : env.SameWorld other)
    (first : Time.InCalendar env.now) (second : Time.InCalendar other.now)
    (interactive shown : Bool) (arguments : List String) :
    SameLog env.now other.now (build env interactive arguments).log
        (build other shown arguments).log ∧
      SameVerdict
        ((Draft.initial arguments env.now env.workingDirectory).applyArguments env
          arguments).outcome
        interactive shown (build env interactive arguments).outcome
        (build other shown arguments).outcome := by
  have agree : Draft.AgreeOn Field.referenceTime.others
      (Draft.initial arguments env.now env.workingDirectory)
      (Draft.initial arguments other.now other.workingDirectory) := by
    rw [same.workingDirectory]
    intro field member
    cases field <;> first | rfl | exact absurd rfl (Field.mem_others.mp member)
  obtain ⟨log, ended⟩ := Draft.applyTokens_clocked same (tokenize schema arguments).error? []
    (tokenize schema arguments).list agree first second
  exact closed_clocked same log ended interactive shown

/-- The stamp files in the year 2033, without terminals. -/
def Environment.laterStampFiles : Environment :=
  { Environment.stampFiles with
    now := .finite false (2000000000 * Binary64.one)
    outputIsTerminal := false
    errorIsTerminal := false }

def futureArguments : List String := ["-N", "1700000000", "-w", "-n", "/civil.stamp", "/music"]

theorem build_clock_futureArguments :
    Environment.stampFiles.SameWorld .laterStampFiles ∧
      Time.InCalendar Environment.stampFiles.now ∧
      Time.InCalendar Environment.laterStampFiles.now ∧
      (build .stampFiles true futureArguments).log.length = 2 ∧
      (build .laterStampFiles false futureArguments).log = [] ∧
      ∃ config, (build .stampFiles true futureArguments).outcome = .ok config ∧
        config.settings.switches .color = true ∧
        (build .laterStampFiles false futureArguments).outcome = .ok (config.withColor false) := by
  have same : Environment.stampFiles.SameWorld .laterStampFiles := ⟨rfl, rfl, rfl⟩
  have first : Time.InCalendar Environment.stampFiles.now :=
    ⟨false, 0, rfl, by decide +kernel, by decide +kernel, by decide +kernel⟩
  have second : Time.InCalendar Environment.laterStampFiles.now :=
    ⟨false, 2000000000 * Binary64.one, rfl, by decide +kernel, by decide +kernel,
      by decide +kernel⟩
  have success : ((build .stampFiles true futureArguments).outcome.toOption.any fun config =>
      config.settings.switches .color) = true := by decide +kernel
  refine ⟨same, first, second, by decide +kernel, by decide +kernel, ?_⟩
  obtain ⟨made, built, bright⟩ := eq_ok_of_any success
  obtain ⟨-, ⟨failure, failed, -⟩ | ⟨draft, config, -, outcome, color, moved, -⟩⟩ :=
    build_clock same first second true false futureArguments
  · rw [built] at failed
    cases failed
  · rw [built] at outcome
    cases outcome
    rw [Bool.and_false] at moved
    exact ⟨made, built, bright, moved⟩

end ScanSetup
