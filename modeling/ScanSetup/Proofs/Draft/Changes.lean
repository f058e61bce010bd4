import ScanSetup.Proofs.Draft.Steps

set_option autoImplicit false

namespace ScanSetup

open Options

/-- By how much an option moves the counter of verbosity. -/
def Options.Effect.louder : Effect → Int
  | .verbosity delta => delta
  | _ => 0

namespace Draft

/-- The overrides that keep the notation of a stamp: none for plain seconds. -/
def stampOverrides (stamp : String) : List Override :=
  if Time.isPlain stamp then [] else [civilStamp]

/-- The switches that merging directories, and lint types that ask for it, set on their own. -/
def mergingSwitches : List Switch := [.ignoreHidden, .findHardlinkedDupes]

theorem not_mem_mergingSwitches {target : Switch} :
    target ∉ mergingSwitches ↔ target ≠ .ignoreHidden ∧ target ≠ .findHardlinkedDupes := by
  simp [mergingSwitches]

/-- The option `effect` with the value `value` turns the draft `d` into another one. -/
inductive Change (env : Environment) (d : Draft) : Effect → String → Draft → Prop
  | threads {value : String} {n : Int} (read : integerValue "threads" value = .ok n) :
      Change env d .threads value (d.update ({ · with threads := n }))
  | maxDepth {value : String} {n : Int} (read : integerValue "max-depth" value = .ok n) :
      Change env d .maxDepth value (d.update ({ · with depth := n }))
  | sortCriteria (value : String) :
      Change env d .sortCriteria value (d.update ({ · with sortCriteria := value }))
  | types (value : String) {switches : Switches} (notices : List String)
      (kept : ∀ target, target ∉ mergingSwitches → switches target = d.settings.switches target) :
      Change env d .types value
        { d with
          settings :=
            { d.settings with
              lint := (Lint.Selection.parse Lint.catalog value).apply d.settings.lint
              switches := switches }
          notices := d.notices ++ notices }
  | sizeLimits {value : String} {least most : Nat}
      (read : Size.parseRange value = .ok (least, most)) :
      Change env d .sizeLimits value
        (d.update ({ · with minSize := least, maxSize := most, limitsSpecified := true }))
  | algorithm {value : String} {checksum : Checksum} (read : Checksum.parse? value = some checksum) :
      Change env d .algorithm value (d.update ({ · with checksum := checksum }))
  | registered {mode : OutputMode} {pair : String}
      (known : isFormatter (Sink.parse pair).formatter = true) :
      Change env d (.output mode) pair
        ((d.register (Sink.parse pair)).setCounter (max (d.counter mode) 0 + 1) mode)
  | rejected {mode : OutputMode} {pair : String} (notice : String)
      (unknown : isFormatter (Sink.parse pair).formatter = false) :
      Change env d (.output mode) pair ((d.setCounter (max (d.counter mode) 0) mode).noting notice)
  | paranoidMem {value : String} {size : Nat} (read : Size.parse value = .ok size) :
      Change env d .paranoidMem value (d.update ({ · with paranoidMem := size }))
  | unreadStamp {path : String} {fault : Time.StampFileFault}
      (unread : Time.readStampFile env path = .error fault) :
      Change env d .newerThanStamp path
        ((d.update ({ · with timeFilter := .off })).noting fault.message)
  | stamp {path text : String} {stamp : Time.Stamp} (notices : List String)
      (read : Time.readStampFile env path = .ok text)
      (parsed : Time.parseStamp d.referenceTime text = .ok stamp) :
      Change env d .newerThanStamp path
        { d with
          settings :=
            { d.settings with
              timeFilter := ⟨true, stamp.instant⟩
              outputs := d.settings.outputs ++ [⟨stampFormatter, path⟩]
              outputConfig := d.settings.outputConfig ++ stampOverrides text }
          notices := d.notices ++ notices }
  | newerThan {spec : String} {stamp : Time.Stamp} (notices : List String)
      (parsed : Time.parseStamp d.referenceTime spec = .ok stamp) :
      Change env d .newerThan spec
        { d.update ({ · with timeFilter := ⟨true, stamp.instant⟩ }) with
          notices := d.notices ++ notices }
  | clampLow {value : String} {clamp : Clamp} (read : Clamp.parse value = .ok clamp) :
      Change env d .clampLow value (d.update ({ · with clampStart := clamp }))
  | clampTop {value : String} {clamp : Clamp} (read : Clamp.parse value = .ok clamp) :
      Change env d .clampTop value (d.update ({ · with clampEnd := clamp }))
  | configure {pair : String} {item : Override} (read : Override.parse pair = .ok item) :
      Change env d .configure pair (d.addOverride item)
  | malformed {pair : String} {fault : OverrideFault} (unread : Override.parse pair = .error fault) :
      Change env d .configure pair (d.noting (fault.message pair))
  | cache {path : String} (present : env.isFile (tidyPath path) = .ok true) :
      Change env d .cache path (d.update fun s => { s with caches := s.caches ++ [path] })
  | preset (preset : Preset) (value : String) :
      Change env d (.preset preset) value (d.replaceSinks preset.sinks)
  | verbosity (delta : Int) (value : String) :
      Change env d (.verbosity delta) value { d with verbosityCount := d.verbosityCount + delta }
  | paranoia {delta : Int} {value : String} (checksum : Checksum) :
      Change env d (.paranoia delta) value
        (d.update fun s => { s with paranoia := s.paranoia + delta, checksum := checksum })
  | mergeDirectories (value : String) : Change env d .mergeDirectories value d.mergeDirectories
  | switch (target : Switch) (on : Bool) (value : String) :
      Change env d (.switch target on) value (d.update (·.withSwitch target on))

variable {d next : Draft} {env : Environment} {effect : Effect} {value : String}

theorem change_of_applyLintTypes (env : Environment) (d : Draft) (value : String) :
    d.Change env .types value (d.applyLintTypes Lint.catalog value) := by
  unfold applyLintTypes applySelection
  dsimp only
  split
  · refine .types value _ ?_
    intro target apart
    obtain ⟨notHidden, notLinked⟩ := not_mem_mergingSwitches.mp apart
    simp only [update, Settings.withSwitch, Switches.set, notHidden, notLinked, ↓reduceIte]
  · exact .types value _ fun target apart => rfl

theorem change_of_addOutput (env : Environment) (d : Draft) (mode : OutputMode) (pair : String) :
    d.Change env (.output mode) pair (d.addOutput mode pair) := by
  unfold addOutput
  dsimp only
  split
  · rename_i known
    exact .registered known
  · rename_i unknown
    exact .rejected _ (by simpa using unknown)

theorem change_of_configure (env : Environment) (d : Draft) (pair : String) :
    d.Change env .configure pair (d.configure pair) := by
  unfold configure
  split
  · rename_i item read
    exact .configure read
  · rename_i fault unread
    exact .malformed unread

theorem change_of_filterNewerThanFile {path : String}
    (success : d.filterNewerThanFile env path = .ok next) :
    d.Change env .newerThanStamp path next := by
  rcases filterNewerThanFile_eq_ok success with
    ⟨fault, unread, -, rfl⟩ | ⟨text, filtered, read, filter, rfl⟩
  · exact .unreadStamp unread
  · obtain ⟨stamp, notices, parsed, rfl⟩ := filterNewer_eq_ok filter
    have change := Change.stamp (d := d) notices read parsed
    by_cases plain : Time.isPlain text = true
    · rw [stampOverrides, if_pos plain, List.append_nil] at change
      rw [if_pos plain]
      exact change
    · rw [stampOverrides, if_neg plain] at change
      rw [if_neg plain]
      exact change

/-- Every option that succeeds makes one of the changes. -/
theorem change_of_apply (success : effect.apply env value d = .ok next) :
    d.Change env effect value next := by
  cases effect with
  | threads =>
    obtain ⟨n, read, rfl⟩ := map_eq_ok_iff.mp success
    exact .threads read
  | maxDepth =>
    obtain ⟨n, read, rfl⟩ := map_eq_ok_iff.mp success
    exact .maxDepth read
  | sortCriteria =>
    cases success
    exact .sortCriteria value
  | types =>
    cases success
    exact change_of_applyLintTypes env d value
  | sizeLimits =>
    simp only [Effect.apply] at success
    split at success
    · cases success
    · rename_i least most read
      cases success
      exact .sizeLimits read
  | algorithm =>
    simp only [Effect.apply] at success
    split at success
    · cases success
    · rename_i checksum read
      cases success
      exact .algorithm read
  | output mode =>
    cases success
    exact change_of_addOutput env d mode value
  | paranoidMem =>
    simp only [Effect.apply] at success
    split at success
    · cases success
    · rename_i size read
      cases success
      exact .paranoidMem read
  | newerThanStamp => exact change_of_filterNewerThanFile success
  | newerThan =>
    obtain ⟨stamp, notices, parsed, rfl⟩ := filterNewer_eq_ok success
    exact .newerThan notices parsed
  | clampLow =>
    obtain ⟨clamp, read, rfl⟩ := map_eq_ok_iff.mp success
    exact .clampLow (clampValue_eq_ok.mp read)
  | clampTop =>
    obtain ⟨clamp, read, rfl⟩ := map_eq_ok_iff.mp success
    exact .clampTop (clampValue_eq_ok.mp read)
  | configure =>
    cases success
    exact change_of_configure env d value
  | cache =>
    obtain ⟨present, rfl⟩ := addCache_eq_ok success
    exact .cache present
  | preset sinks =>
    cases success
    exact .preset sinks value
  | verbosity delta =>
    cases success
    exact .verbosity delta value
  | paranoia delta =>
    obtain ⟨choice, -, rfl⟩ := stepParanoia_eq_ok success
    exact .paranoia _
  | mergeDirectories =>
    cases success
    exact .mergeDirectories value
  | switch target on =>
    cases success
    exact .switch target on value

theorem counter_setCounter_iff {count : Int} (used : 0 ≤ count) (mode other : OutputMode) :
    0 ≤ (d.setCounter count mode).counter other ↔ 0 ≤ d.counter other ∨ mode = other := by
  cases mode <;> cases other <;> simp [setCounter, counter, used]

namespace Change

variable (change : d.Change env effect value next)

include change

theorem referenceTime_eq : next.referenceTime = d.referenceTime := by
  cases change with
  | @registered mode _ known => cases mode <;> rfl
  | @rejected mode _ notice unknown => cases mode <;> rfl
  | _ => rfl

theorem notices_append : ∃ noted, next.notices = d.notices ++ noted := by
  cases change with
  | types value notices kept => exact ⟨notices, rfl⟩
  | @registered mode _ known => exact ⟨[], by cases mode <;> exact (List.append_nil _).symm⟩
  | @rejected mode _ notice unknown => exact ⟨[notice], by cases mode <;> rfl⟩
  | unreadStamp unread => exact ⟨_, rfl⟩
  | stamp notices read parsed => exact ⟨notices, rfl⟩
  | newerThan notices parsed => exact ⟨notices, rfl⟩
  | malformed unread => exact ⟨_, rfl⟩
  | _ => exact ⟨[], (List.append_nil _).symm⟩

theorem verbosityCount_eq : next.verbosityCount = d.verbosityCount + effect.louder := by
  cases change with
  | @registered mode _ known => cases mode <;> exact (Int.add_zero _).symm
  | @rejected mode _ notice unknown => cases mode <;> exact (Int.add_zero _).symm
  | verbosity delta => rfl
  | _ => exact (Int.add_zero _).symm

/-- The time filter is off or that of a point in time, unless it stays as it is. -/
theorem timeFilter_cases :
    next.settings.timeFilter = d.settings.timeFilter ∨ next.settings.timeFilter = .off ∨
      ∃ spec stamp, Time.parseStamp d.referenceTime spec = .ok stamp ∧
        next.settings.timeFilter = ⟨true, stamp.instant⟩ := by
  cases change with
  | @registered mode _ known => exact Or.inl (by cases mode <;> rfl)
  | @rejected mode _ notice unknown => exact Or.inl (by cases mode <;> rfl)
  | unreadStamp => exact Or.inr (Or.inl rfl)
  | stamp notices read parsed => exact Or.inr (Or.inr ⟨_, _, parsed, rfl⟩)
  | newerThan notices parsed => exact Or.inr (Or.inr ⟨_, _, parsed, rfl⟩)
  | _ => exact Or.inl rfl

theorem workingDirectory_eq : next.settings.workingDirectory = d.settings.workingDirectory := by
  cases change with
  | @registered mode _ known => cases mode <;> rfl
  | @rejected mode _ notice unknown => cases mode <;> rfl
  | _ => rfl

/-- A switch moves by its own options alone, unless merging directories needs it. -/
theorem switches_iff {target : Switch} (apart : target ∉ mergingSwitches) :
    next.settings.switches target = true ↔
      effect = .switch target true ∨
        d.settings.switches target = true ∧ effect ≠ .switch target false := by
  cases change with
  | types _ notices kept => simp [kept target apart]
  | @registered mode _ known => cases mode <;> simp [setCounter, register, update]
  | @rejected mode _ notice unknown => cases mode <;> simp [setCounter, noting]
  | mergeDirectories =>
    obtain ⟨notHidden, notLinked⟩ := not_mem_mergingSwitches.mp apart
    simp [Draft.mergeDirectories, update, Switches.set, notHidden, notLinked]
  | switch moved on =>
    by_cases same : moved = target
    · cases on <;> simp [update, Settings.withSwitch, Switches.set, same]
    · simp [update, Settings.withSwitch, Switches.set, same, Ne.symm same]
  | _ => simp [update, noting, addOverride, replaceSinks]

theorem clampStart_eq :
    if effect = .clampLow then Clamp.parse value = .ok next.settings.clampStart
    else next.settings.clampStart = d.settings.clampStart := by
  cases change with
  | @registered mode _ known => cases mode <;> rfl
  | @rejected mode _ notice unknown => cases mode <;> rfl
  | clampLow read => exact read
  | _ => rfl

theorem clampEnd_eq :
    if effect = .clampTop then Clamp.parse value = .ok next.settings.clampEnd
    else next.settings.clampEnd = d.settings.clampEnd := by
  cases change with
  | @registered mode _ known => cases mode <;> rfl
  | @rejected mode _ notice unknown => cases mode <;> rfl
  | clampTop read => exact read
  | _ => rfl

/-- The sinks are those of a preset from its option on. -/
theorem presetOutputs_iff :
    next.presetOutputs = true ↔ d.presetOutputs = true ∨ ∃ preset, effect = .preset preset := by
  cases change with
  | @registered mode _ known => cases mode <;> simp [setCounter, register, update]
  | @rejected mode _ notice unknown => cases mode <;> simp [setCounter, noting]
  | preset preset => simp [replaceSinks]
  | _ => simp [update, noting, addOverride, Draft.mergeDirectories]

/-- A counter leaves its unused state with its own option, whether or not a sink is registered,
and never returns to it. -/
theorem counter_used_iff (mode : OutputMode) :
    0 ≤ next.counter mode ↔ 0 ≤ d.counter mode ∨ effect = .output mode := by
  cases change with
  | @registered used _ known =>
    have same : (d.register (Sink.parse value)).counter mode = d.counter mode := by
      cases mode <;> rfl
    rw [counter_setCounter_iff (by omega), same]
    simp
  | @rejected used _ notice unknown =>
    have noted : ((d.setCounter (max (d.counter used) 0) used).noting notice).counter mode =
        (d.setCounter (max (d.counter used) 0) used).counter mode := by cases mode <;> rfl
    rw [noted, counter_setCounter_iff (by omega)]
    simp
  | _ =>
    cases mode <;>
      simp [counter, update, noting, addOverride, replaceSinks, Draft.mergeDirectories]

end Change

end Draft

end ScanSetup
