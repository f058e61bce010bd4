import ScanSetup.Proofs.Draft.Fields
import ScanSetup.Proofs.Draft.Values
import ScanSetup.Proofs.Run.Outputs

set_option autoImplicit false

namespace ScanSetup

open Options Number

/-- The settings that are replaced as a whole: all numbers, boundaries and switches but those that
other settings move along, and the time filter. -/
def Field.replaced : List Field :=
  [.threads, .depth, .sortCriteria, .minSize, .maxSize, .limitsSpecified, .paranoidMem,
    .clampStart, .clampEnd, .timeFilter] ++
    (Switch.all.filter (· ∉ Draft.mergingSwitches)).map .switch

/-- The filter on files newer than the instant that a text stands for. -/
def Time.filter? (spec : String) : Option TimeFilter :=
  (readInstant spec).toOption.map (⟨true, ·⟩)

theorem Time.filter?_eq_some {spec : String} {filter : TimeFilter}
    (same : filter? spec = some filter) :
    ∃ instant, readInstant spec = .ok instant ∧ filter = ⟨true, instant⟩ := by
  unfold filter? at same
  cases read : readInstant spec with
  | error fault => simp [read, Except.toOption] at same
  | ok instant =>
    refine ⟨instant, rfl, ?_⟩
    simpa [read, Except.toOption, eq_comm] using same

/-- What an option stores in a setting: the value that its text writes, if it replaces the setting.
A stamp file that cannot be read, or whose first line is blank, stores that there is no filter. -/
def Options.Effect.stores (env : Environment) (value : String) :
    Effect → (field : Field) → Option field.Value
  | .threads, .threads => readInteger? value
  | .maxDepth, .depth => readInteger? value
  | .sortCriteria, .sortCriteria => some value
  | .sizeLimits, .minSize => (Size.parseRange value).toOption.map fun limits => (limits.1 : Int)
  | .sizeLimits, .maxSize => (Size.parseRange value).toOption.map fun limits => (limits.2 : Int)
  | .sizeLimits, .limitsSpecified => some true
  | .paranoidMem, .paranoidMem => (Size.parse value).toOption.map fun size => (size : Int)
  | .clampLow, .clampStart => (Clamp.parse value).toOption
  | .clampTop, .clampEnd => (Clamp.parse value).toOption
  | .newerThan, .timeFilter => Time.filter? value
  | .newerThanStamp, .timeFilter =>
    match Time.readStampFile env value with
    | .error _ => some .off
    | .ok text => Time.filter? text
  | .switch target on, .switch other => if other = target then some on else none
  | _, _ => none

def lastWriter? (field : Field) (occurrences : List Occurrence) : Option Occurrence :=
  (occurrences.filter fun o => decide (field ∈ o.effect.writes)).getLast?

theorem integerValue_eq_ok {option value : String} {n : Int}
    (success : integerValue option value = .ok n) : readInteger? value = some n := by
  unfold integerValue at success
  split at success
  · rename_i read
    cases success
    exact read
  · cases success

theorem filter?_of_parseStamp {now : Binary64} {spec : String} {stamp : Time.Stamp}
    (parsed : Time.parseStamp now spec = .ok stamp) :
    Time.filter? spec = some ⟨true, stamp.instant⟩ := by
  rw [Time.filter?, Time.readInstant_of_parseStamp parsed]
  rfl

theorem switch_replaced_iff {target : Switch} :
    .switch target ∈ Field.replaced ↔ target ∉ Draft.mergingSwitches := by
  simp [Field.replaced, target.mem_all]

theorem category_not_replaced (category : Lint.Category) :
    .category category ∉ Field.replaced := by
  simp [Field.replaced]

theorem merging_not_replaced {field : Field} (merging : field ∈ Draft.mergingSwitches.map .switch) :
    field ∉ Field.replaced := by
  obtain ⟨target, member, rfl⟩ := List.mem_map.mp merging
  rw [switch_replaced_iff, not_not]
  exact member

namespace Draft

variable {d next last : Draft} {env : Environment} {effect : Effect} {value : String}
variable {field : Field} {occurrences : List Occurrence}

theorem Change.stores_eq (change : d.Change env effect value next)
    (replaced : field ∈ Field.replaced) (written : field ∈ effect.writes) :
    effect.stores env value field = some (next.get field) := by
  cases change with
  | threads read =>
    obtain rfl := List.mem_singleton.mp written
    exact integerValue_eq_ok read
  | maxDepth read =>
    obtain rfl := List.mem_singleton.mp written
    exact integerValue_eq_ok read
  | sortCriteria =>
    obtain rfl := List.mem_singleton.mp written
    rfl
  | sizeLimits read =>
    simp only [Effect.writes, List.mem_cons, List.not_mem_nil, or_false] at written
    rcases written with rfl | rfl | rfl
    · simp only [Effect.stores, read, Except.toOption, Option.map_some]
      rfl
    · simp only [Effect.stores, read, Except.toOption, Option.map_some]
      rfl
    · rfl
  | paranoidMem read =>
    obtain rfl := List.mem_singleton.mp written
    simp only [Effect.stores, read, Except.toOption]
    rfl
  | clampLow read =>
    obtain rfl := List.mem_singleton.mp written
    exact congrArg Except.toOption read
  | clampTop read =>
    obtain rfl := List.mem_singleton.mp written
    exact congrArg Except.toOption read
  | unreadStamp unread =>
    simp only [Effect.writes, List.mem_cons, List.not_mem_nil, or_false] at written
    rcases written with rfl | rfl | rfl
    · simp only [Effect.stores, unread]
      rfl
    · simp [Field.replaced] at replaced
    · simp [Field.replaced] at replaced
  | stamp notices read parsed =>
    simp only [Effect.writes, List.mem_cons, List.not_mem_nil, or_false] at written
    rcases written with rfl | rfl | rfl
    · simp only [Effect.stores, read, filter?_of_parseStamp parsed]
      rfl
    · simp [Field.replaced] at replaced
    · simp [Field.replaced] at replaced
  | newerThan notices parsed =>
    obtain rfl := List.mem_singleton.mp written
    exact filter?_of_parseStamp parsed
  | switch target on =>
    obtain rfl := List.mem_singleton.mp written
    simp [Effect.stores, get, update, Settings.withSwitch, Switches.set]
  -- The other options write none of these settings.
  | types =>
    rcases List.mem_append.mp written with listed | merging
    · obtain ⟨category, -, rfl⟩ := List.mem_map.mp listed
      exact absurd replaced (category_not_replaced category)
    · exact absurd replaced (merging_not_replaced merging)
  | mergeDirectories =>
    rcases List.mem_cons.mp written with rfl | merging
    · exact absurd replaced (category_not_replaced _)
    · exact absurd replaced (merging_not_replaced merging)
  | registered | rejected | preset | paranoia =>
    simp only [Effect.writes, List.mem_cons, List.not_mem_nil, or_false] at written
    rcases written with rfl | rfl
    · simp [Field.replaced] at replaced
    · simp [Field.replaced] at replaced
  | _ =>
    obtain rfl := List.mem_singleton.mp written
    simp [Field.replaced] at replaced

theorem get_withPositionals (paths : List String) (other : field ≠ .positionals) :
    (d.withPositionals paths).get field = d.get field := by
  cases field <;> first | rfl | exact absurd rfl other

theorem applyHistory_lastWriter (replaced : field ∈ Field.replaced)
    (success : d.applyHistory env occurrences = .ok last) :
    match lastWriter? field occurrences with
    | none => last.get field = d.get field
    | some o => o.effect.stores env o.value field = some (last.get field) := by
  refine applyHistory_last (·.get field) (fun o => decide (field ∈ o.effect.writes))
    (fun o value => o.effect.stores env o.value field = some value) ?_ success
  intro o before next applied
  have change : before.Change env o.effect o.value next := change_of_apply applied
  by_cases written : field ∈ o.effect.writes
  · rw [if_pos (decide_eq_true written)]
    exact change.stores_eq replaced written
  · rw [if_neg (by simpa using written)]
    exact change.get_eq written

end Draft

/-- The last writer of a setting decides it: after options that could all be applied, a replaced
setting holds exactly what the last option that writes it stores, or its default if there is none.
After a point in time given last the filter is on with its instant; after a stamp file given last it
is on with the instant of its stamp, and off if it has none. -/
theorem applyArguments_lastWriter {env : Environment} {arguments : List String} {final : Draft}
    (success : ((Draft.initial arguments env.now env.workingDirectory).applyArguments
      env arguments).outcome = .ok final) :
    (∀ field ∈ Field.replaced,
      match lastWriter? field (history arguments) with
      | none => final.get field =
          (Draft.initial arguments env.now env.workingDirectory).get field
      | some o => o.effect.stores env o.value field = some (final.get field)) ∧
    (∀ spec, lastWriter? .timeFilter (history arguments) = some ⟨.newerThan, spec⟩ →
      ∃ instant, Time.readInstant spec = .ok instant ∧
        final.settings.timeFilter = ⟨true, instant⟩) ∧
    ∀ path, lastWriter? .timeFilter (history arguments) = some ⟨.newerThanStamp, path⟩ →
      (∀ text, Time.StampText env path text →
        ∃ instant, Time.readInstant text = .ok instant ∧
          final.settings.timeFilter = ⟨true, instant⟩) ∧
      ((∀ text, ¬Time.StampText env path text) → final.settings.timeFilter = .off) := by
  obtain ⟨last, applied, rfl⟩ := Draft.applyArguments_eq_ok success
  have filter := Draft.applyHistory_lastWriter (by decide : .timeFilter ∈ Field.replaced) applied
  refine ⟨?_, ?_, ?_⟩
  · intro field replaced
    have located : field ≠ .positionals := by
      rintro rfl
      simp [Field.replaced] at replaced
    rw [Draft.get_withPositionals _ located]
    exact Draft.applyHistory_lastWriter replaced applied
  · intro spec given
    rw [given] at filter
    exact Time.filter?_eq_some filter
  · intro path given
    rw [given] at filter
    simp only [Effect.stores] at filter
    constructor
    · intro text written
      rw [Time.readStampFile_eq_ok_iff.mpr written] at filter
      exact Time.filter?_eq_some filter
    · intro none
      obtain ⟨fault, unread⟩ := Time.stampText_unread_iff.mp none
      rw [unread] at filter
      exact (Option.some.inj filter).symm

def repeatedArguments : List String :=
  ["-t", "4", "-D", "-n", "/plain.stamp", "-fvF", "--threads= 9_0", "-T", "all,-dd", "-n", "/music"]

theorem applyArguments_lastWriter_repeatedArguments :
    ∃ final, ((Draft.initial repeatedArguments Environment.stampFiles.now
        Environment.stampFiles.workingDirectory).applyArguments .stampFiles
        repeatedArguments).outcome = .ok final ∧
      .threads ∈ Field.replaced ∧ final.get .threads = 90 ∧
      lastWriter? .timeFilter (history repeatedArguments) = some ⟨.newerThanStamp, "/music"⟩ ∧
      final.settings.timeFilter = .off ∧
      .depth ∈ Field.replaced ∧ final.get .depth = 2048 := by
  have success : ((Draft.initial repeatedArguments Environment.stampFiles.now
      Environment.stampFiles.workingDirectory).applyArguments .stampFiles
      repeatedArguments).outcome.isOk = true := by decide +kernel
  have lastThreads : lastWriter? .threads (history repeatedArguments) =
      some ⟨.threads, " 9_0"⟩ := by decide +kernel
  have lastFilter : lastWriter? .timeFilter (history repeatedArguments) =
      some ⟨.newerThanStamp, "/music"⟩ := by decide +kernel
  have lastDepth : lastWriter? .depth (history repeatedArguments) = none := by decide +kernel
  obtain ⟨final, applied⟩ := eq_ok_of_isOk success
  obtain ⟨settings, -, stampFile⟩ := applyArguments_lastWriter applied
  have threads := settings .threads (by decide)
  have depth := settings .depth (by decide)
  have unread : ∀ text, ¬Time.StampText .stampFiles "/music" text :=
    Time.stampText_unread_iff.mpr ⟨.cannotOpen "/music" .isDirectory, by decide +kernel⟩
  have filter := (stampFile "/music" lastFilter).2 unread
  rw [lastThreads] at threads
  rw [lastDepth] at depth
  have written : readInteger? " 9_0" = some 90 := by decide +kernel
  exact ⟨final, applied, by decide, Option.some.inj (threads.symm.trans written), lastFilter,
    filter, by decide, depth⟩

end ScanSetup
