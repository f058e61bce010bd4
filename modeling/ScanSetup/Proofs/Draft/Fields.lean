import ScanSetup.Proofs.Draft.Changes

set_option autoImplicit false

namespace ScanSetup

open Options

/-- A field of a draft. Every switch, category and counter is one of its own. -/
inductive Field
  | threads
  | depth
  | minSize
  | maxSize
  | limitsSpecified
  | switch (target : Switch)
  | category (category : Lint.Category)
  | checksum
  | paranoia
  | paranoidMem
  | sortCriteria
  | clampStart
  | clampEnd
  | timeFilter
  | outputs
  | outputConfig
  | caches
  | workingDirectory
  | commandLine
  | verbosityCount
  | counter (mode : OutputMode)
  | presetOutputs
  | referenceTime
  | positionals
  deriving DecidableEq, Repr

@[reducible]
def Field.Value : Field → Type
  | threads | depth | minSize | maxSize | paranoia | paranoidMem | verbosityCount | counter _ => Int
  | limitsSpecified | switch _ | category _ | presetOutputs => Bool
  | sortCriteria | workingDirectory | commandLine => String
  | caches | positionals => List String
  | checksum => Checksum
  | clampStart | clampEnd => Clamp
  | timeFilter => TimeFilter
  | outputs => List Sink
  | outputConfig => List Override
  | referenceTime => Number.Binary64

instance Field.decidableEqValue : (field : Field) → DecidableEq field.Value
  | .threads | .depth | .minSize | .maxSize | .paranoia | .paranoidMem | .verbosityCount
  | .counter _ => inferInstanceAs (DecidableEq Int)
  | .limitsSpecified | .switch _ | .category _
  | .presetOutputs => inferInstanceAs (DecidableEq Bool)
  | .sortCriteria | .workingDirectory | .commandLine => inferInstanceAs (DecidableEq String)
  | .caches | .positionals => inferInstanceAs (DecidableEq (List String))
  | .checksum => inferInstanceAs (DecidableEq Checksum)
  | .clampStart | .clampEnd => inferInstanceAs (DecidableEq Clamp)
  | .timeFilter => inferInstanceAs (DecidableEq TimeFilter)
  | .outputs => inferInstanceAs (DecidableEq (List Sink))
  | .outputConfig => inferInstanceAs (DecidableEq (List Override))
  | .referenceTime => inferInstanceAs (DecidableEq Number.Binary64)

attribute [ext] Settings Draft

namespace Draft

def get (d : Draft) : (field : Field) → field.Value
  | .threads => d.settings.threads
  | .depth => d.settings.depth
  | .minSize => d.settings.minSize
  | .maxSize => d.settings.maxSize
  | .limitsSpecified => d.settings.limitsSpecified
  | .switch target => d.settings.switches target
  | .category category => d.settings.lint category
  | .checksum => d.settings.checksum
  | .paranoia => d.settings.paranoia
  | .paranoidMem => d.settings.paranoidMem
  | .sortCriteria => d.settings.sortCriteria
  | .clampStart => d.settings.clampStart
  | .clampEnd => d.settings.clampEnd
  | .timeFilter => d.settings.timeFilter
  | .outputs => d.settings.outputs
  | .outputConfig => d.settings.outputConfig
  | .caches => d.settings.caches
  | .workingDirectory => d.settings.workingDirectory
  | .commandLine => d.settings.commandLine
  | .verbosityCount => d.verbosityCount
  | .counter mode => d.counter mode
  | .presetOutputs => d.presetOutputs
  | .referenceTime => d.referenceTime
  | .positionals => d.positionals

/-- A draft is its fields and its notices. -/
theorem eq_of_get {a b : Draft} (fields : ∀ field, a.get field = b.get field)
    (notices : a.notices = b.notices) : a = b := by
  have settings : a.settings = b.settings :=
    Settings.ext (fields .threads) (fields .depth) (fields .minSize) (fields .maxSize)
      (fields .limitsSpecified) (funext fun target => fields (.switch target))
      (funext fun category => fields (.category category)) (fields .checksum) (fields .paranoia)
      (fields .paranoidMem) (fields .sortCriteria) (fields .clampStart) (fields .clampEnd)
      (fields .timeFilter) (fields .outputs) (fields .outputConfig) (fields .caches)
      (fields .workingDirectory) (fields .commandLine)
  exact Draft.ext settings (fields .verbosityCount) (fields (.counter .override))
    (fields (.counter .add)) (fields .presetOutputs) (fields .referenceTime) (fields .positionals)
    notices

/-- Two drafts hold the same in some fields. -/
def AgreeOn (fields : List Field) (a b : Draft) : Prop :=
  ∀ field ∈ fields, a.get field = b.get field

end Draft

theorem Lint.Category.mem_all (category : Lint.Category) : category ∈ Lint.Category.all := by
  cases category <;> decide

theorem Switch.mem_all (target : Switch) : target ∈ Switch.all := by
  cases target <;> decide

def Field.all : List Field :=
  [.threads, .depth, .minSize, .maxSize, .limitsSpecified, .checksum, .paranoia, .paranoidMem,
    .sortCriteria, .clampStart, .clampEnd, .timeFilter, .outputs, .outputConfig, .caches,
    .workingDirectory, .commandLine, .verbosityCount, .counter .override, .counter .add,
    .presetOutputs, .referenceTime, .positionals] ++
    Switch.all.map .switch ++ Lint.Category.all.map .category

theorem Field.mem_all (field : Field) : field ∈ Field.all := by
  cases field with
  | switch target =>
    exact List.mem_append_left _ (List.mem_append_right _ (List.mem_map_of_mem target.mem_all))
  | category category => exact List.mem_append_right _ (List.mem_map_of_mem category.mem_all)
  | counter mode => cases mode <;> simp [Field.all]
  | _ => simp [Field.all]

def Field.others (field : Field) : List Field := Field.all.filter (· ≠ field)

theorem Field.mem_others {field other : Field} : other ∈ field.others ↔ other ≠ field := by
  simp [others, other.mem_all]

/-- The fields that an option may write. -/
def Options.Effect.writes : Effect → List Field
  | .threads => [.threads]
  | .maxDepth => [.depth]
  | .sortCriteria => [.sortCriteria]
  | .types => Lint.Category.all.map .category ++ Draft.mergingSwitches.map .switch
  | .sizeLimits => [.minSize, .maxSize, .limitsSpecified]
  | .algorithm => [.checksum]
  | .output mode => [.outputs, .counter mode]
  | .paranoidMem => [.paranoidMem]
  | .newerThanStamp => [.timeFilter, .outputs, .outputConfig]
  | .newerThan => [.timeFilter]
  | .clampLow => [.clampStart]
  | .clampTop => [.clampEnd]
  | .configure => [.outputConfig]
  | .cache => [.caches]
  | .preset _ => [.outputs, .presetOutputs]
  | .verbosity _ => [.verbosityCount]
  | .paranoia _ => [.paranoia, .checksum]
  | .mergeDirectories => .category .duplicateDirs :: Draft.mergingSwitches.map .switch
  | .switch target _ => [.switch target]

theorem Options.Effect.referenceTime_not_mem_writes (effect : Effect) :
    .referenceTime ∉ effect.writes := by
  cases effect <;> simp [writes]

/-- The option succeeds on the draft, and then a field holds another value. -/
def Options.Effect.moves (env : Environment) (effect : Effect) (value : String) (d : Draft)
    (field : Field) : Bool :=
  match effect.apply env value d with
  | .ok next => next.get field ≠ d.get field
  | .error _ => false

namespace Draft

variable {d next : Draft} {env : Environment} {effect : Effect} {value : String} {field : Field}
variable {target : Switch} {mode : OutputMode} {count : Int}

theorem exists_of_moves (moved : effect.moves env value d field = true) :
    ∃ next, effect.apply env value d = .ok next ∧ next.get field ≠ d.get field := by
  unfold Effect.moves at moved
  split at moved
  · rename_i next applied
    exact ⟨next, applied, of_decide_eq_true moved⟩
  · cases moved

theorem not_mem_merging (apart : .switch target ∉ mergingSwitches.map Field.switch) :
    target ≠ .ignoreHidden ∧ target ≠ .findHardlinkedDupes :=
  not_mem_mergingSwitches.mp fun merging => apart (List.mem_map_of_mem merging)

theorem get_setCounter (other : field ≠ .counter mode) :
    (d.setCounter count mode).get field = d.get field := by
  cases field with
  | counter used =>
    cases mode <;> cases used <;> first | rfl | exact absurd rfl other
  | _ => cases mode <;> rfl

theorem get_register (sink : Sink) (other : field ≠ .outputs) :
    (d.register sink).get field = d.get field := by
  cases field <;> first | rfl | exact absurd rfl other

theorem get_noting (notice : String) : (d.noting notice).get field = d.get field := by
  cases field <;> rfl

theorem Change.get_eq (change : d.Change env effect value next) (apart : field ∉ effect.writes) :
    next.get field = d.get field := by
  cases change with
  | types value notices kept =>
    cases field with
    | switch target =>
      exact kept target (not_mem_mergingSwitches.mpr (not_mem_merging fun merging =>
        apart (List.mem_append_right _ merging)))
    | category category =>
      exact absurd (List.mem_append_left _ (List.mem_map_of_mem category.mem_all)) apart
    | _ => rfl
  | @registered mode _ known =>
    obtain ⟨notOutputs, notCounter⟩ : field ≠ .outputs ∧ field ≠ .counter mode := by
      simpa [Effect.writes] using apart
    rw [get_setCounter notCounter, get_register _ notOutputs]
  | @rejected mode _ notice unknown =>
    have notCounter : field ≠ .counter mode := fun same => apart (by simp [Effect.writes, same])
    rw [get_noting, get_setCounter notCounter]
  | mergeDirectories =>
    cases field with
    | switch target =>
      obtain ⟨notHidden, notLinked⟩ := not_mem_merging fun merging =>
        apart (List.mem_cons_of_mem _ merging)
      simp only [get, Draft.mergeDirectories, update, Switches.set, notHidden, notLinked,
        ↓reduceIte]
    | category category =>
      have other : category ≠ .duplicateDirs := fun same => apart (by simp [Effect.writes, same])
      simp [get, Draft.mergeDirectories, update, Lint.Categories.union, Lint.Categories.ofList,
        other]
    | _ => rfl
  | switch moved on =>
    cases field with
    | switch target =>
      have other : target ≠ moved := fun same => apart (by simp [Effect.writes, same])
      simp only [get, update, Settings.withSwitch, Switches.set, other, ↓reduceIte]
    | _ => rfl
  | _ => cases field <;> first | rfl | exact absurd (by simp [Effect.writes]) apart

end Draft

end ScanSetup
