import ScanSetup.Proofs.Output.Overrides
import ScanSetup.Proofs.Run.Outputs

set_option autoImplicit false

namespace ScanSetup

open Options

namespace Occurrence

/-- The overrides that an option records: the one that its pair writes, or the notation of the
stamp that it has read. -/
def overrides (env : Environment) (o : Occurrence) : List Override :=
  match o with
  | ⟨.configure, pair⟩ => (Override.parse pair).toOption.toList
  | ⟨.newerThanStamp, path⟩ => ((env.stamp? path).map Draft.stampOverrides).getD []
  | _ => []

end Occurrence

namespace Draft

variable {env : Environment} {d next last : Draft} {effect : Effect} {value : String}
variable {occurrences : List Occurrence}

theorem Change.outputConfig_eq (change : d.Change env effect value next) :
    next.settings.outputConfig =
      d.settings.outputConfig ++ Occurrence.overrides env ⟨effect, value⟩ := by
  cases change with
  | @registered mode _ known =>
    simp only [Occurrence.overrides, List.append_nil]
    cases mode <;> rfl
  | @rejected mode _ notice unknown =>
    simp only [Occurrence.overrides, List.append_nil]
    cases mode <;> rfl
  | unreadStamp unread =>
    simp only [Occurrence.overrides, stamp?_eq_none unread, Option.map_none, Option.getD_none,
      List.append_nil]
    rfl
  | stamp notices read parsed =>
    simp only [Occurrence.overrides, stamp?_eq_some read parsed, Option.map_some, Option.getD_some]
  | configure read =>
    simp only [Occurrence.overrides, read, Except.toOption, Option.toList_some]
    rfl
  | malformed unread =>
    simp only [Occurrence.overrides, unread, Except.toOption, Option.toList_none, List.append_nil]
    rfl
  | _ => exact (List.append_nil _).symm

theorem applyHistory_outputConfig (success : d.applyHistory env occurrences = .ok last) :
    last.settings.outputConfig =
      d.settings.outputConfig ++ occurrences.flatMap (Occurrence.overrides env) := by
  have folded := applyHistory_foldl (fun d => d.settings.outputConfig)
    (fun items o => items ++ o.overrides env)
    (fun _ _ _ _ applied => (change_of_apply applied).outputConfig_eq) success
  rw [folded, List.foldl_append_eq_append, List.flatMap_def]

end Draft

variable {env : Environment} {interactive : Bool} {arguments : List String}
variable {config : Configuration}

theorem build_overrides (success : (build env interactive arguments).outcome = .ok config) :
    config.settings.outputConfig = (history arguments).flatMap (Occurrence.overrides env) := by
  obtain ⟨draft, list, sinks, prepared, rfl⟩ := build_eq_ok success
  obtain ⟨last, applied, rfl⟩ := Draft.applyArguments_eq_ok prepared.applied
  exact Draft.applyHistory_outputConfig applied

/-- What the configuration of stamp files says about their notation. -/
def Configuration.civil? (config : Configuration) : Option String :=
  (sinkConfig config.settings.outputConfig stampFormatter).lookup Draft.civilStamp.key

/-- Stamp files are written back in the notation of a stamp: a civil time asks for civil times, and
for plain seconds there is no word about the notation. -/
def Configuration.KeepsNotation (config : Configuration) (stamp : String) : Prop :=
  config.civil? = if Time.isPlain stamp then none else some "true"

/-- No option other than those that read stamp files speaks about them. -/
structure StampsUntouched (occurrences : List Occurrence) : Prop where
  unconfigured : ∀ pair item, ⟨.configure, pair⟩ ∈ occurrences → Override.parse pair = .ok item →
    item.formatter ≠ stampFormatter
  unregistered : ∀ mode pair, ⟨.output mode, pair⟩ ∈ occurrences →
    (Sink.parse pair).formatter ≠ stampFormatter

section

variable {occurrences : List Occurrence} (untouched : StampsUntouched occurrences)

include untouched

theorem stampOverride_origin {item : Override}
    (member : item ∈ occurrences.flatMap (Occurrence.overrides env))
    (own : item.formatter = stampFormatter) :
    item = Draft.civilStamp ∧
      ∃ path stamp, ⟨.newerThanStamp, path⟩ ∈ occurrences ∧ env.HasStamp path stamp ∧
        Time.isPlain stamp = false := by
  obtain ⟨⟨effect, value⟩, occurs, recorded⟩ := List.mem_flatMap.mp member
  cases effect with
  | configure =>
    have read : Override.parse value = .ok item := by
      cases parsed : Override.parse value with
      | error fault => simp [Occurrence.overrides, parsed, Except.toOption] at recorded
      | ok other =>
        rw [show item = other by
          simpa [Occurrence.overrides, parsed, Except.toOption] using recorded]
    exact absurd own (untouched.unconfigured value item occurs read)
  | newerThanStamp =>
    cases stamped : env.stamp? value with
    | none => simp [Occurrence.overrides, stamped] at recorded
    | some stamp =>
      rw [Occurrence.overrides, stamped, Option.map_some, Option.getD_some,
        Draft.stampOverrides] at recorded
      by_cases plain : Time.isPlain stamp = true
      · simp [plain] at recorded
      · rw [if_neg plain] at recorded
        exact ⟨List.mem_singleton.mp recorded, value, stamp, occurs,
          stamp?_eq_some_iff.mp stamped, by simpa using plain⟩
  | _ => cases recorded

theorem stampSink_origin {path : String}
    (member : ⟨stampFormatter, path⟩ ∈ registrations env occurrences) :
    ⟨.newerThanStamp, path⟩ ∈ occurrences ∧ ∃ stamp, env.HasStamp path stamp := by
  obtain ⟨⟨effect, value⟩, since, registered⟩ := List.mem_filterMap.mp member
  have occurs := (List.rtakeWhile_suffix _ _).subset since
  cases effect with
  | output mode =>
    have same : Sink.parse value = ⟨stampFormatter, path⟩ := by
      simp only [Occurrence.registration?] at registered
      split at registered
      · exact Option.some.inj registered
      · cases registered
    exact absurd (congrArg Sink.formatter same) (untouched.unregistered mode value occurs)
  | newerThanStamp =>
    obtain ⟨stamp, stamped, same⟩ := Option.map_eq_some_iff.mp registered
    cases same
    exact ⟨occurs, stamp, stamp?_eq_some_iff.mp stamped⟩
  | _ => cases registered

end

open Classical in
/-- The notation of stamp files is asked for if one of the stamps is a civil time. -/
theorem civil?_eq (success : (build env interactive arguments).outcome = .ok config)
    (untouched : StampsUntouched (history arguments)) :
    config.civil? =
      if ∃ path stamp, ⟨.newerThanStamp, path⟩ ∈ history arguments ∧ env.HasStamp path stamp ∧
          Time.isPlain stamp = false then some "true"
      else none := by
  rw [Configuration.civil?, build_overrides success]
  have agree : ∀ item ∈ (history arguments).flatMap (Occurrence.overrides env),
      item.formatter = stampFormatter → item.key = Draft.civilStamp.key → item.value = "true" :=
    fun item member own _ => congrArg Override.value (stampOverride_origin untouched member own).1
  rw [sinkConfig_lookup_of_agree agree]
  refine if_congr ⟨?_, ?_⟩ rfl rfl
  · rintro ⟨item, member, own, -⟩
    exact (stampOverride_origin untouched member own).2
  · rintro ⟨path, stamp, occurs, stamped, civil⟩
    have recorded : Draft.civilStamp ∈ Occurrence.overrides env ⟨.newerThanStamp, path⟩ := by
      simp [Occurrence.overrides, stamp?_eq_some_iff.mpr stamped, Draft.stampOverrides, civil]
    exact ⟨_, List.mem_flatMap.mpr ⟨_, occurs, recorded⟩, rfl, rfl⟩

theorem stamp_not_mem_baseSinks {occurrences : List Occurrence} {path : String} :
    ⟨stampFormatter, path⟩ ∉ baseSinks occurrences := by
  have apart : ∀ preset : Preset, ∀ sink ∈ preset.sinks, sink.formatter ≠ stampFormatter := by
    intro preset
    cases preset <;> decide
  intro member
  unfold baseSinks at member
  split at member
  · exact apart _ _ member rfl
  · split at member
    · cases member
    · exact apart _ _ member rfl

/-- A stamp file among the outputs was named by an option, which has read a stamp from it. Its
notation is kept if that stamp is a civil time; if it is plain seconds, then as long as no stamp of
the whole command line is a civil time, presets notwithstanding. -/
theorem build_notation (success : (build env interactive arguments).outcome = .ok config)
    (untouched : StampsUntouched (history arguments)) :
    ∀ path, ⟨stampFormatter, path⟩ ∈ config.settings.outputs →
      ∃ stamp, ⟨.newerThanStamp, path⟩ ∈ history arguments ∧ env.HasStamp path stamp ∧
        (config.KeepsNotation stamp ↔
          (Time.isPlain stamp = true → ∀ other text, ⟨.newerThanStamp, other⟩ ∈ history arguments →
            env.HasStamp other text → Time.isPlain text = true)) := by
  intro path member
  rw [build_sinks success, List.mem_append] at member
  have registered := member.resolve_left stamp_not_mem_baseSinks
  obtain ⟨occurs, stamp, stamped⟩ := stampSink_origin untouched registered
  refine ⟨stamp, occurs, stamped, ?_⟩
  rw [Configuration.KeepsNotation, civil?_eq success untouched]
  -- The notation hangs on the whole history, not on the file, so its two cases decide.
  by_cases civil : ∃ other text, ⟨.newerThanStamp, other⟩ ∈ history arguments ∧
      env.HasStamp other text ∧ Time.isPlain text = false
  · rw [if_pos civil]
    obtain ⟨other, text, given, read, foreign⟩ := civil
    by_cases plain : Time.isPlain stamp = true
    · simp only [plain, ↓reduceIte, reduceCtorEq, forall_const, false_iff]
      intro all
      rw [all other text given read] at foreign
      cases foreign
    · simp [plain]
  · rw [if_neg civil]
    have all : ∀ other text, ⟨.newerThanStamp, other⟩ ∈ history arguments →
        env.HasStamp other text → Time.isPlain text = true := by
      intro other text given read
      by_contra foreign
      exact civil ⟨other, text, given, read, by simpa using foreign⟩
    have plain : Time.isPlain stamp = true := all path stamp occurs stamped
    exact iff_of_true (if_pos plain).symm fun _ => all

def civilArguments : List String :=
  ["-n", "/plain.stamp", "-g", "-c", "csv:iso8601=no", "-o", "json", "-n", "/civil.stamp"]

theorem civilArguments_untouched : StampsUntouched (history civilArguments) where
  unconfigured pair item := by
    have own : ∀ o ∈ history civilArguments, o.effect = .configure →
        ∀ item ∈ (Override.parse o.value).toOption, item.formatter ≠ stampFormatter := by
      decide +kernel
    intro occurs read
    exact own _ occurs rfl item (by simp [read, Except.toOption])
  unregistered mode pair occurs := by
    have own : ∀ o ∈ history civilArguments, o.effect = .output mode →
        (Sink.parse o.value).formatter ≠ stampFormatter := by
      cases mode <;> decide +kernel
    exact own _ occurs rfl

theorem build_notation_civilArguments :
    ∃ config, (build .stampFiles false civilArguments).outcome = .ok config ∧
      StampsUntouched (history civilArguments) ∧
      ⟨stampFormatter, "/civil.stamp"⟩ ∈ config.settings.outputs ∧
      config.KeepsNotation "2023-11-14T22:13:20Z" := by
  have success : ((build .stampFiles false civilArguments).outcome.toOption.any fun config =>
      config.settings.outputs.contains ⟨stampFormatter, "/civil.stamp"⟩) = true := by
    decide +kernel
  cases made : (build .stampFiles false civilArguments).outcome with
  | error failure => simp [made, Except.toOption] at success
  | ok config =>
    have member : ⟨stampFormatter, "/civil.stamp"⟩ ∈ config.settings.outputs := by
      simpa [made, Except.toOption] using success
    obtain ⟨stamp, -, stamped, kept⟩ :=
      build_notation made civilArguments_untouched "/civil.stamp" member
    have read : Environment.stampFiles.stamp? "/civil.stamp" = some "2023-11-14T22:13:20Z" := by
      decide +kernel
    obtain rfl : stamp = "2023-11-14T22:13:20Z" :=
      Option.some.inj ((stamp?_eq_some_iff.mpr stamped).symm.trans read)
    have civil : Time.isPlain "2023-11-14T22:13:20Z" = false := by decide +kernel
    refine ⟨config, rfl, civilArguments_untouched, member, kept.mpr ?_⟩
    intro plain
    rw [civil] at plain
    cases plain

def discardedArguments : List String := ["-n", "/civil.stamp", "-g", "-n", "/plain.stamp"]

theorem discardedArguments_notation_lost :
    StampsUntouched (history discardedArguments) ∧
      ∃ config, (build .stampFiles false discardedArguments).outcome = .ok config ∧
        ⟨stampFormatter, "/plain.stamp"⟩ ∈ config.settings.outputs ∧
        ⟨stampFormatter, "/civil.stamp"⟩ ∉ config.settings.outputs ∧
        Environment.stampFiles.HasStamp "/plain.stamp" "1700000000" ∧
        Time.isPlain "1700000000" = true ∧ ¬ config.KeepsNotation "1700000000" := by
  have others : ∀ o ∈ history discardedArguments, o.effect ≠ .configure ∧
      ∀ mode, o.effect ≠ .output mode := by
    intro o member
    have effect : o.effect = .newerThanStamp ∨ o.effect = .preset .progress := by
      revert o
      decide +kernel
    rcases effect with same | same <;> simp [same]
  have untouched : StampsUntouched (history discardedArguments) :=
    ⟨fun _ _ occurs => absurd rfl (others _ occurs).1,
      fun mode _ occurs => absurd rfl ((others _ occurs).2 mode)⟩
  have success : ((build .stampFiles false discardedArguments).outcome.toOption.any fun config =>
      config.settings.outputs.contains ⟨stampFormatter, "/plain.stamp"⟩ &&
        !config.settings.outputs.contains ⟨stampFormatter, "/civil.stamp"⟩ &&
        config.civil? == some "true") = true := by
    decide +kernel
  have read : Environment.stampFiles.HasStamp "/plain.stamp" "1700000000" :=
    stamp?_eq_some_iff.mp (by decide +kernel)
  have plain : Time.isPlain "1700000000" = true := by decide +kernel
  refine ⟨untouched, ?_⟩
  cases made : (build .stampFiles false discardedArguments).outcome with
  | error failure => simp [made, Except.toOption] at success
  | ok config =>
    simp only [made, Except.toOption, Option.any_some, Bool.and_eq_true, Bool.not_eq_true',
      List.contains_eq_mem, decide_eq_true_eq, decide_eq_false_iff_not, beq_iff_eq] at success
    obtain ⟨⟨kept, discarded⟩, civil⟩ := success
    refine ⟨config, rfl, kept, discarded, read, plain, ?_⟩
    rw [Configuration.KeepsNotation, civil, plain]
    exact Option.some_ne_none _

end ScanSetup
