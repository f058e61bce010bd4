import ScanSetup.Proofs.Output.Spelling
import ScanSetup.Proofs.Run.Notation

set_option autoImplicit false

namespace ScanSetup

open Options

/-- The option records an override: the one that its pair spells, or the word about the notation of
stamp files if it has read the stamp of a file and that is a civil time. -/
inductive Occurrence.Records (env : Environment) : Occurrence → Override → Prop
  | configured {pair : String} {item : Override} (spelled : item.Spelled pair) :
      Records env ⟨.configure, pair⟩ item
  | dated {path stamp : String} (read : env.HasStamp path stamp)
      (civil : Time.isPlain stamp = false) :
      Records env ⟨.newerThanStamp, path⟩ ⟨stampFormatter, "iso8601", "true"⟩

/-- The last option that records an override for this key records this one. -/
def LastRecord (env : Environment) (occurrences : List Occurrence) (item : Override) : Prop :=
  ∃ front o back, occurrences = front ++ o :: back ∧ o.Records env item ∧
    ∀ later ∈ back, ∀ value, ¬ later.Records env { item with value := value }

def Occurrence.override? (env : Environment) : Occurrence → Option Override
  | ⟨.configure, pair⟩ => (Override.parse pair).toOption
  | ⟨.newerThanStamp, path⟩ =>
    (env.stamp? path).bind fun stamp =>
      if Time.isPlain stamp then none else some Draft.civilStamp
  | _ => none

/-- The last value of a list that `f` finds is found at a member with none behind it. -/
theorem getLast?_filterMap_eq_some_iff {α β : Type} {f : α → Option β} {l : List α} {b : β} :
    (l.filterMap f).getLast? = some b ↔
      ∃ front a back, l = front ++ a :: back ∧ f a = some b ∧ ∀ later ∈ back, f later = none := by
  rw [List.getLast?_filterMap, List.findSome?_eq_some_iff]
  constructor
  · rintro ⟨back, a, front, reversed, found, none⟩
    refine ⟨front.reverse, a, back.reverse, ?_, found, fun later member => ?_⟩
    · rw [← List.reverse_reverse l, reversed]
      simp
    · exact none later (List.mem_reverse.mp member)
  · rintro ⟨front, a, back, rfl, found, none⟩
    refine ⟨back.reverse, a, front.reverse, by simp, found, fun later member => ?_⟩
    exact none later (List.mem_reverse.mp member)

section

variable {env : Environment} {o : Occurrence} {item : Override} {formatter key value : String}

/-! ### The overrides of a history -/

theorem overrides_eq_toList (env : Environment) (o : Occurrence) :
    o.overrides env = (o.override? env).toList := by
  obtain ⟨effect, text⟩ := o
  cases effect with
  | newerThanStamp =>
    simp only [Occurrence.overrides, Occurrence.override?]
    cases env.stamp? text with
    | none => rfl
    | some stamp =>
      cases plain : Time.isPlain stamp <;> simp [Draft.stampOverrides, plain]
  | _ => rfl

theorem override?_eq_some_iff : o.override? env = some item ↔ o.Records env item := by
  constructor
  · intro recorded
    obtain ⟨effect, text⟩ := o
    cases effect with
    | configure =>
      refine .configured (Override.parse_eq_ok_iff.mp ?_)
      cases read : Override.parse text with
      | error fault => simp [Occurrence.override?, read, Except.toOption] at recorded
      | ok other => simpa [Occurrence.override?, read, Except.toOption] using recorded
    | newerThanStamp =>
      obtain ⟨stamp, read, chosen⟩ := Option.bind_eq_some_iff.mp recorded
      split at chosen
      · cases chosen
      · rename_i civil
        cases chosen
        exact .dated (stamp?_eq_some_iff.mp read) (by simpa using civil)
    | _ => cases recorded
  · rintro (⟨spelled⟩ | ⟨read, civil⟩)
    · simp [Occurrence.override?, Override.parse_eq_ok_iff.mpr spelled, Except.toOption]
    · simp [Occurrence.override?, stamp?_eq_some_iff.mpr read, civil, Draft.civilStamp]

/-- The override for a key of a formatter that an option records. -/
def Occurrence.overrideOf? (env : Environment) (formatter key : String) (o : Occurrence) :
    Option Override :=
  (o.override? env).filter fun item => item.formatter == formatter && item.key == key

theorem overrideOf?_eq_some_iff :
    o.overrideOf? env formatter key = some item ↔
      o.Records env item ∧ item.formatter = formatter ∧ item.key = key := by
  simp [Occurrence.overrideOf?, Option.filter_eq_some_iff, override?_eq_some_iff]

theorem lastOverride?_history (env : Environment) (occurrences : List Occurrence)
    (formatter key : String) :
    lastOverride? (occurrences.flatMap (Occurrence.overrides env)) formatter key =
      (occurrences.filterMap (Occurrence.overrideOf? env formatter key)).getLast? := by
  have listed : occurrences.flatMap (Occurrence.overrides env) =
      occurrences.filterMap (Occurrence.override? env) := by
    rw [List.filterMap_eq_flatMap_toList]
    exact List.flatMap_congr fun o _ => overrides_eq_toList env o
  rw [lastOverride?, listed, List.filter_filterMap]
  rfl

theorem lastOverride?_value_iff {occurrences : List Occurrence} :
    (lastOverride? (occurrences.flatMap (Occurrence.overrides env)) formatter key).map (·.value) =
        some value ↔
      LastRecord env occurrences ⟨formatter, key, value⟩ := by
  rw [lastOverride?_history, Option.map_eq_some_iff]
  constructor
  · rintro ⟨item, last, rfl⟩
    obtain ⟨front, o, back, split, found, none⟩ := getLast?_filterMap_eq_some_iff.mp last
    obtain ⟨recorded, rfl, rfl⟩ := overrideOf?_eq_some_iff.mp found
    refine ⟨front, o, back, split, recorded, fun later member value again => ?_⟩
    have some := overrideOf?_eq_some_iff.mpr ⟨again, rfl, rfl⟩
    rw [none later member] at some
    cases some
  · rintro ⟨front, o, back, split, recorded, none⟩
    refine ⟨_, getLast?_filterMap_eq_some_iff.mpr ⟨front, o, back, split,
      overrideOf?_eq_some_iff.mpr ⟨recorded, rfl, rfl⟩, fun later member => ?_⟩, rfl⟩
    rw [Option.eq_none_iff_forall_ne_some]
    intro other found
    obtain ⟨again, rfl, rfl⟩ := overrideOf?_eq_some_iff.mp found
    exact none later member other.value again

theorem lastOverride?_isSome_iff {occurrences : List Occurrence} :
    (lastOverride? (occurrences.flatMap (Occurrence.overrides env)) formatter key).isSome = true ↔
      ∃ o ∈ occurrences, ∃ value, o.Records env ⟨formatter, key, value⟩ := by
  rw [lastOverride?_history, Option.isSome_iff_ne_none, Ne, List.getLast?_eq_none_iff,
    List.filterMap_eq_nil_iff]
  constructor
  · intro some
    push Not at some
    obtain ⟨o, member, found⟩ := some
    obtain ⟨item, found⟩ := Option.ne_none_iff_exists'.mp found
    obtain ⟨recorded, rfl, rfl⟩ := overrideOf?_eq_some_iff.mp found
    exact ⟨o, member, item.value, recorded⟩
  · rintro ⟨o, member, value, recorded⟩ none
    have some := overrideOf?_eq_some_iff.mpr ⟨recorded, rfl, rfl⟩
    rw [none o member] at some
    cases some

end

/-- A formatter has a key in the end exactly if an option has recorded an override for it, and its
value is that of the last one. A text that spells no override leaves a notice and nothing else, and
no option removes an override, those that replace the sinks included. Of a text that spells one, the
formatter ends at the first colon, and the key at the first equals sign behind it. -/
theorem build_sinkConfig (env : Environment) (interactive : Bool) (arguments : List String) :
    (∀ config, (build env interactive arguments).outcome = .ok config → ∀ formatter key,
      (((sinkConfig config.settings.outputConfig formatter).lookup key).isSome = true ↔
        ∃ o ∈ history arguments, ∃ value, o.Records env ⟨formatter, key, value⟩) ∧
      ∀ value, (sinkConfig config.settings.outputConfig formatter).lookup key = some value ↔
        LastRecord env (history arguments) ⟨formatter, key, value⟩) ∧
    (∀ pair, (∀ item, ¬ Override.Spelled item pair) → ∀ d : Draft,
      ∃ notice, Occurrence.apply env ⟨.configure, pair⟩ d = .ok (d.noting notice)) ∧
    (∀ o : Occurrence, ∀ d next : Draft, o.apply env d = .ok next →
      d.settings.outputConfig <+: next.settings.outputConfig) ∧
    ∀ formatter key value, ':' ∉ formatter.toList → key ≠ "" → '=' ∉ key.toList →
      Override.parse (formatter ++ ":" ++ key ++ "=" ++ value) = .ok ⟨formatter, key, value⟩ := by
  refine ⟨?_, ?_, ?_, ?_⟩
  · intro config success formatter key
    rw [build_overrides success, sinkConfig_lookup]
    refine ⟨?_, fun value => lastOverride?_value_iff⟩
    rw [Option.isSome_map]
    exact lastOverride?_isSome_iff
  · intro pair malformed d
    cases read : Override.parse pair with
    | error fault =>
      refine ⟨fault.message pair, ?_⟩
      simp only [Occurrence.apply, Effect.apply, Draft.configure, read]
    | ok item => exact absurd (Override.parse_eq_ok_iff.mp read) (malformed item)
  · intro o d next applied
    rw [(Draft.change_of_apply applied).outputConfig_eq]
    exact List.prefix_append _ _
  · intro formatter key value colon nonempty equals
    exact Override.parse_eq_ok_iff.mpr ⟨⟨colon, nonempty, equals⟩, Or.inl rfl⟩

def overridingArguments : List String :=
  ["-c", "csv:a:b=x:y=z", "-n", "/civil.stamp", "-c", "stamp:iso8601=no", "-c", "csv:a:b", "-g",
    "-c", "csv"]

theorem build_sinkConfig_overridingArguments :
    ∃ config, (build .stampFiles false overridingArguments).outcome = .ok config ∧
      LastRecord .stampFiles (history overridingArguments) ⟨"csv", "a:b", "1"⟩ ∧
      (sinkConfig config.settings.outputConfig "csv").lookup "a:b" = some "1" ∧
      (sinkConfig config.settings.outputConfig stampFormatter).lookup "iso8601" = some "no" ∧
      Override.parse ("csv" ++ ":" ++ "a:b" ++ "=" ++ "x:y=z") = .ok ⟨"csv", "a:b", "x:y=z"⟩ := by
  have success : (build .stampFiles false overridingArguments).outcome.isOk = true := by
    decide +kernel
  have csv : LastRecord .stampFiles (history overridingArguments) ⟨"csv", "a:b", "1"⟩ :=
    lastOverride?_value_iff.mp (by decide +kernel)
  have stamp : LastRecord .stampFiles (history overridingArguments)
      ⟨stampFormatter, "iso8601", "no"⟩ := lastOverride?_value_iff.mp (by decide +kernel)
  obtain ⟨config, made⟩ := eq_ok_of_isOk success
  obtain ⟨keys, -, -, spelled⟩ := build_sinkConfig .stampFiles false overridingArguments
  exact ⟨config, made, csv, ((keys config made "csv" "a:b").2 "1").mpr csv,
    ((keys config made stampFormatter "iso8601").2 "no").mpr stamp,
    spelled "csv" "a:b" "x:y=z" (by decide) (by decide) (by decide)⟩

end ScanSetup
