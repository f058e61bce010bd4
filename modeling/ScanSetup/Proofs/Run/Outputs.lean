import ScanSetup.Proofs.Run.Build
import ScanSetup.Proofs.Run.History
import ScanSetup.Proofs.Time.StampFile
import Mathlib.Data.List.DropRight

set_option autoImplicit false

namespace ScanSetup

open Options

/-- The file at a path has a stamp that can be read and is a point in time. -/
def Environment.HasStamp (env : Environment) (path text : String) : Prop :=
  Time.StampText env path text ∧ ∃ stamp, Time.parseStamp env.now text = .ok stamp

/-- The stamp in a file that can be read and whose stamp is a point in time. -/
def Environment.stamp? (env : Environment) (path : String) : Option String :=
  match Time.readStampFile env path with
  | .error _ => none
  | .ok text =>
    match Time.parseStamp env.now text with
    | .error _ => none
    | .ok _ => some text

namespace Occurrence

def preset? : Occurrence → Option Preset
  | ⟨.preset preset, _⟩ => some preset
  | _ => none

def registration? (env : Environment) : Occurrence → Option Sink
  | ⟨.output _, pair⟩ =>
    if isFormatter (Sink.parse pair).formatter then some (Sink.parse pair) else none
  | ⟨.newerThanStamp, path⟩ => (env.stamp? path).map fun _ => ⟨stampFormatter, path⟩
  | _ => none

/-- The option registers a sink: one with a known formatter, or a stamp file that was read. -/
inductive Registers (env : Environment) : Occurrence → Sink → Prop
  | output {mode : OutputMode} {pair : String}
      (known : isFormatter (Sink.parse pair).formatter = true) :
      Registers env ⟨.output mode, pair⟩ (Sink.parse pair)
  | stampFile {path text : String} (read : env.HasStamp path text) :
      Registers env ⟨.newerThanStamp, path⟩ ⟨stampFormatter, path⟩

/-- The sinks behind an option: a preset replaces them, a registration is appended. -/
def sinksAfter (env : Environment) (sinks : List Sink) (o : Occurrence) : List Sink :=
  match o.preset? with
  | some preset => preset.sinks
  | none => sinks ++ (o.registration? env).toList

end Occurrence

def lastPreset? (occurrences : List Occurrence) : Option Preset :=
  (occurrences.filterMap Occurrence.preset?).getLast?

/-- The options behind the last preset; all of them if there is none. -/
def sincePreset (occurrences : List Occurrence) : List Occurrence :=
  occurrences.rtakeWhile (·.preset?.isNone)

/-- The sinks that a history registers and that no preset discards. -/
def registrations (env : Environment) (occurrences : List Occurrence) : List Sink :=
  (sincePreset occurrences).filterMap (·.registration? env)

/-- The sinks in front of the registered ones: those of the last preset; without a preset none if
outputs replace the default ones, even if no sink was registered, else the default ones. -/
def baseSinks (occurrences : List Occurrence) : List Sink :=
  match lastPreset? occurrences with
  | some preset => preset.sinks
  | none =>
    if ∃ o ∈ occurrences, o.effect = .output .override then [] else Preset.report.sinks

section

variable {env : Environment} {occurrences : List Occurrence}

theorem stamp?_eq_none {path : String} {fault : Time.StampFileFault}
    (unread : Time.readStampFile env path = .error fault) : env.stamp? path = none := by
  simp only [Environment.stamp?, unread]

theorem stamp?_eq_some {path text : String} {now : Number.Binary64} {stamp : Time.Stamp}
    (read : Time.readStampFile env path = .ok text)
    (parsed : Time.parseStamp now text = .ok stamp) : env.stamp? path = some text := by
  obtain ⟨moved, same⟩ := Time.parseStamp_clock env.now parsed
  simp only [Environment.stamp?, read, same]

theorem stamp?_eq_some_iff {path text : String} :
    env.stamp? path = some text ↔ env.HasStamp path text := by
  rw [Environment.HasStamp, ← Time.readStampFile_eq_ok_iff, Environment.stamp?]
  cases Time.readStampFile env path with
  | error fault => simp
  | ok stamp =>
    dsimp only
    constructor
    · intro found
      split at found
      · cases found
      · rename_i parsed
        cases found
        exact ⟨rfl, _, parsed⟩
    · rintro ⟨same, stamp, parsed⟩
      cases same
      rw [parsed]

theorem registration?_eq_some_iff {o : Occurrence} {sink : Sink} :
    o.registration? env = some sink ↔ o.Registers env sink := by
  constructor
  · intro registered
    obtain ⟨effect, value⟩ := o
    cases effect with
    | output mode =>
      simp only [Occurrence.registration?] at registered
      split at registered
      · rename_i known
        cases registered
        exact .output known
      · cases registered
    | newerThanStamp =>
      obtain ⟨text, read, same⟩ := Option.map_eq_some_iff.mp registered
      cases same
      exact .stampFile (stamp?_eq_some_iff.mp read)
    | _ => cases registered
  · rintro (known | read)
    · simp only [Occurrence.registration?, known, ↓reduceIte]
    · simp only [Occurrence.registration?, stamp?_eq_some_iff.mpr read, Option.map_some]

theorem lastPreset?_eq_none :
    lastPreset? occurrences = none ↔ ∀ o ∈ occurrences, o.preset? = none := by
  rw [lastPreset?, List.getLast?_eq_none_iff, List.filterMap_eq_nil_iff]

theorem sincePreset_eq_self (none : lastPreset? occurrences = none) :
    sincePreset occurrences = occurrences := by
  rw [sincePreset, List.rtakeWhile_eq_self_iff]
  intro o member
  rw [lastPreset?_eq_none.mp none o member]
  rfl

/-- Folded over a history, presets leave the sinks of the last one and what came behind it. -/
theorem foldl_sinksAfter (env : Environment) (occurrences : List Occurrence) :
    occurrences.foldl (Occurrence.sinksAfter env) [] =
      ((lastPreset? occurrences).elim [] Preset.sinks) ++ registrations env occurrences := by
  -- From the end, since a preset discards what came before it.
  induction occurrences using List.reverseRecOn with
  | nil => rfl
  | append_singleton front o ih =>
    rw [List.foldl_append, List.foldl_cons, List.foldl_nil, ih, Occurrence.sinksAfter]
    cases chosen : o.preset? with
    | some preset =>
      have last : lastPreset? (front ++ [o]) = some preset := by
        simp [lastPreset?, chosen]
      have since : sincePreset (front ++ [o]) = [] := by
        simp [sincePreset, chosen]
      simp [last, registrations, since]
    | none =>
      have last : lastPreset? (front ++ [o]) = lastPreset? front := by
        simp [lastPreset?, chosen]
      have since : sincePreset (front ++ [o]) = sincePreset front ++ [o] := by
        simp [sincePreset, chosen]
      have added : [o].filterMap (·.registration? env) = (o.registration? env).toList := by
        cases registered : o.registration? env <;> simp [registered]
      simp only [last, registrations, since, List.filterMap_append, added, List.append_assoc]

end

namespace Draft

variable {env : Environment} {d next last : Draft} {effect : Effect} {value : String}
variable {occurrences : List Occurrence}

theorem Change.outputs_eq (change : d.Change env effect value next) :
    next.settings.outputs = Occurrence.sinksAfter env d.settings.outputs ⟨effect, value⟩ := by
  cases change with
  | @registered mode _ known =>
    simp only [Occurrence.sinksAfter, Occurrence.preset?, Occurrence.registration?, known,
      ↓reduceIte, Option.toList_some]
    cases mode <;> rfl
  | @rejected mode _ notice unknown =>
    simp only [Occurrence.sinksAfter, Occurrence.preset?, Occurrence.registration?, unknown,
      ↓reduceIte, Bool.false_eq_true, Option.toList_none, List.append_nil]
    cases mode <;> rfl
  | unreadStamp unread =>
    simp only [Occurrence.sinksAfter, Occurrence.preset?, Occurrence.registration?,
      stamp?_eq_none unread, Option.map_none, Option.toList_none, List.append_nil]
    rfl
  | stamp notices read parsed =>
    simp only [Occurrence.sinksAfter, Occurrence.preset?, Occurrence.registration?,
      stamp?_eq_some read parsed, Option.map_some, Option.toList_some]
  | preset => rfl
  | _ => exact (List.append_nil _).symm

theorem applyHistory_outputs (success : d.applyHistory env occurrences = .ok last) :
    last.settings.outputs = occurrences.foldl (Occurrence.sinksAfter env) d.settings.outputs :=
  applyHistory_foldl (fun d => d.settings.outputs) (Occurrence.sinksAfter env)
    (fun _ _ _ _ applied => (change_of_apply applied).outputs_eq) success

theorem applyHistory_counter (success : d.applyHistory env occurrences = .ok last)
    (mode : OutputMode) :
    0 ≤ last.counter mode ↔
      0 ≤ d.counter mode ∨ ∃ o ∈ occurrences, o.effect = .output mode :=
  applyHistory_sticky (fun d => 0 ≤ d.counter mode) (fun o => o.effect = .output mode)
    (fun _ _ _ _ applied => (change_of_apply applied).counter_used_iff mode) success

theorem applyHistory_presetOutputs (success : d.applyHistory env occurrences = .ok last) :
    last.presetOutputs = true ↔
      d.presetOutputs = true ∨ ∃ o ∈ occurrences, ∃ preset, o.effect = .preset preset :=
  applyHistory_sticky (fun d => d.presetOutputs = true)
    (fun o => ∃ preset, o.effect = .preset preset)
    (fun _ _ _ _ applied => (change_of_apply applied).presetOutputs_iff) success

end Draft

theorem Occurrence.preset?_eq_none {o : Occurrence} :
    o.preset? = none ↔ ¬ ∃ preset, o.effect = .preset preset := by
  obtain ⟨effect, value⟩ := o
  cases effect <;> simp [Occurrence.preset?]

theorem preset_occurs_iff {occurrences : List Occurrence} :
    (∃ o ∈ occurrences, ∃ preset, o.effect = .preset preset) ↔
      lastPreset? occurrences ≠ none := by
  rw [Ne, lastPreset?_eq_none]
  simp only [Occurrence.preset?_eq_none, not_forall, not_not, exists_prop]

theorem Draft.sinks_eq_ok {d : Draft} {sinks : List Sink} (success : d.sinks = .ok sinks) :
    (0 ≤ d.counter .override ∨ d.presetOutputs = true → sinks = d.settings.outputs) ∧
      (¬ 0 ≤ d.counter .override → d.presetOutputs = false →
        sinks = Preset.report.sinks ++ d.settings.outputs) := by
  unfold Draft.sinks at success
  split at success
  · cases success
  · split at success
    · rename_i replaced
      cases success
      refine ⟨fun _ => rfl, ?_⟩
      intro unused unset
      rw [unset, Bool.or_false, decide_eq_true_eq] at replaced
      exact absurd replaced unused
    · rename_i kept
      cases success
      refine ⟨?_, fun _ _ => rfl⟩
      intro replaced
      rw [Bool.or_eq_true, decide_eq_true_eq] at kept
      exact absurd replaced kept

/-- A draft that has no sinks yet, and has used no option for them, settles on the base of its
history and on what the history registers. -/
theorem Draft.applyHistory_sinks {env : Environment} {d last : Draft} {sinks : List Sink}
    {occurrences : List Occurrence} (unused : ¬ 0 ≤ d.counter .override)
    (unset : d.presetOutputs = false) (empty : d.settings.outputs = [])
    (applied : d.applyHistory env occurrences = .ok last) (settled : last.sinks = .ok sinks) :
    sinks = baseSinks occurrences ++ registrations env occurrences := by
  have outputs := applyHistory_outputs applied
  rw [empty, foldl_sinksAfter] at outputs
  have used : 0 ≤ last.counter .override ↔ ∃ o ∈ occurrences, o.effect = .output .override := by
    rw [applyHistory_counter applied]
    exact or_iff_right unused
  have preset : last.presetOutputs = true ↔ lastPreset? occurrences ≠ none := by
    rw [applyHistory_presetOutputs applied, unset, preset_occurs_iff]
    exact or_iff_right Bool.false_ne_true
  obtain ⟨taken, extended⟩ := sinks_eq_ok settled
  rw [baseSinks]
  cases chosen : lastPreset? occurrences with
  | some choice =>
    have set : last.presetOutputs = true := preset.mpr (by simp [chosen])
    rw [taken (Or.inr set), outputs, chosen]
    rfl
  | none =>
    have kept : last.presetOutputs = false := by
      rw [← Bool.not_eq_true, preset]
      exact fun other => other chosen
    rw [chosen] at outputs
    by_cases replaced : ∃ o ∈ occurrences, o.effect = .output .override
    · rw [taken (Or.inl (used.mpr replaced)), outputs]
      simp only [replaced, ↓reduceIte]
      rfl
    · rw [extended (mt used.mp replaced) kept, outputs]
      simp only [replaced, ↓reduceIte]
      rfl

theorem baseSinks_eq_nil {occurrences : List Occurrence} :
    baseSinks occurrences = [] ↔
      (∃ o ∈ occurrences, o.effect = .output .override) ∧ lastPreset? occurrences = none := by
  unfold baseSinks
  cases lastPreset? occurrences with
  | some preset => cases preset <;> simp [Preset.sinks]
  | none =>
    by_cases replaced : ∃ o ∈ occurrences, o.effect = .output .override
    · simp [replaced]
    · simp only [replaced, ↓reduceIte, false_and, iff_false]
      exact List.cons_ne_nil _ _

variable {env : Environment} {interactive : Bool} {arguments : List String}
variable {config : Configuration}

theorem build_sinks (success : (build env interactive arguments).outcome = .ok config) :
    config.settings.outputs =
      baseSinks (history arguments) ++ registrations env (history arguments) := by
  obtain ⟨draft, list, sinks, prepared, rfl⟩ := build_eq_ok success
  obtain ⟨last, applied, rfl⟩ := Draft.applyArguments_eq_ok prepared.applied
  have unused : ¬ 0 ≤ (Draft.initial arguments env.now env.workingDirectory).counter .override := by
    simp [Draft.counter, Draft.initial, Draft.unused]
  exact Draft.applyHistory_sinks unused rfl rfl applied prepared.settled

/-- A world with two stamp files, of which one holds a civil time and one plain seconds. All other
paths name readable directories. -/
def Environment.stampFiles : Environment :=
  { Environment.directories with
    lookup := fun path =>
      if path == "/civil.stamp" then
        .ok ⟨path, .file (bytes "2023-11-14T22:13:20Z\n") none, true, none⟩
      else if path == "/plain.stamp" then
        .ok ⟨path, .file (bytes " 1700000000\n") none, true, none⟩
      else .ok ⟨path, .directory, true, none⟩ }
where
  bytes (text : String) : List UInt8 := text.toList.map (·.toNat.toUInt8)

def presetArguments : List String :=
  ["-n", "/civil.stamp", "-o", "tree", "-g", "-o", "csv:a:b", "-n", "/music", "-n", "/plain.stamp"]

end ScanSetup
