import ScanSetup.Configuration.Reading
import ScanSetup.Proofs.Number.Binary64

set_option autoImplicit false

namespace ScanSetup

open Number

namespace Value

theorem readItems_map {α : Type} (read : Reader α) (toValue : α → Value)
    (inverse : ∀ path a, read path (toValue a) = ⟨a, []⟩) (path : List String) (index : Nat)
    (items : List α) : readItems read path index (items.map toValue) = ⟨items, []⟩ := by
  induction items generalizing index with
  | nil => rfl
  | cons item rest ih =>
    simp only [List.map_cons, readItems, inverse, ih, Reading.map₂, List.append_nil]

theorem readOffset_valid (path : List String) {offset : Int} (nonneg : 0 ≤ offset) :
    readOffset path (.integer offset) = ⟨offset, []⟩ := by
  have kept : ¬ offset < 0 := by omega
  simp [readOffset, readInteger, Reading.pure, kept]

theorem readRatio_valid (path : List String) {ratio : Binary64} (valid : ratio.isRatio = true) :
    readRatio path (.real ratio) = ⟨ratio, []⟩ := by
  have bounds : Binary64.zero.le ratio = true ∧ ratio.le Binary64.unit = true := by
    simpa only [Binary64.isRatio, Bool.and_eq_true] using valid
  simp [readRatio, readReal, Reading.pure, bounds]

theorem readClamp_valid (path : List String) {clamp : Clamp} (valid : clamp.isValid = true) :
    readClamp path clamp.toValue = ⟨clamp, []⟩ := by
  cases clamp with
  | absolute offset =>
    have nonneg : 0 ≤ offset := of_decide_eq_true valid
    have read := readOffset_valid ((path ++ ["absolute"]) ++ ["offset"]) nonneg
    exact congrArg (Reading.map Clamp.absolute) read
  | fractional ratio =>
    have read := readRatio_valid ((path ++ ["fractional"]) ++ ["ratio"]) valid
    exact congrArg (Reading.map Clamp.fractional) read

end Value

namespace Configuration

open Value

/-- The fields are read without an issue, and turn one configuration into another. -/
def Reads (before : Configuration) (fields : List (String × Value)) (after : Configuration) :
    Prop :=
  before.readFields fields = ⟨after, []⟩

variable {before middle after : Configuration}

theorem readFields_append (c : Configuration) (front back : List (String × Value)) :
    c.readFields (front ++ back) =
      ⟨((c.readFields front).result.readFields back).result,
        (c.readFields front).issues ++ ((c.readFields front).result.readFields back).issues⟩ := by
  induction front generalizing c with
  | nil => rfl
  | cons field front ih =>
    simp only [List.cons_append, readFields, ih, List.append_assoc]

theorem Reads.cons {name : String} {value : Value} {rest : List (String × Value)}
    (others : middle.Reads rest after) (first : before.readField name value = ⟨middle, []⟩) :
    before.Reads ((name, value) :: rest) after := by
  unfold Reads at others ⊢
  simp only [readFields, first, others, List.append_nil]

theorem Reads.append {front back : List (String × Value)} (first : before.Reads front middle)
    (second : middle.Reads back after) : before.Reads (front ++ back) after := by
  unfold Reads at first second ⊢
  simp only [readFields_append, first, second, List.append_nil]

theorem readField_switch (c : Configuration) (switch : Switch) (on : Bool) :
    c.readField switch.name (.bool on) = ⟨c.update (·.withSwitch switch on), []⟩ := by
  cases switch <;> rfl

theorem readField_category (c : Configuration) (category : Lint.Category) (on : Bool) :
    c.readField category.name (.bool on) =
      ⟨c.update fun s =>
        { s with lint := fun other => if other = category then on else s.lint other }, []⟩ := by
  cases category <;> rfl

theorem reads_switches_foldl (c : Configuration) (target : Switches) (list : List Switch) :
    c.Reads (list.map fun switch => (switch.name, .bool (target switch)))
      (c.update fun s =>
        { s with
          switches :=
            list.foldl (fun all switch => all.set switch (target switch)) s.switches }) := by
  induction list generalizing c with
  | nil => rfl
  | cons switch rest ih =>
    rw [List.map_cons]
    exact (ih _).cons (readField_switch c switch (target switch))

theorem reads_categories_foldl (c : Configuration) (target : Lint.Categories)
    (list : List Lint.Category) :
    c.Reads (list.map fun category => (category.name, .bool (target category)))
      (c.update fun s =>
        { s with
          lint := list.foldl (fun all category other =>
            if other = category then target category else all other) s.lint }) := by
  induction list generalizing c with
  | nil => rfl
  | cons category rest ih =>
    rw [List.map_cons]
    exact (ih _).cons (readField_category c category (target category))

theorem reads_switches (c : Configuration) (target : Switches) :
    c.Reads (Switch.all.map fun switch => (switch.name, .bool (target switch)))
      (c.update ({ · with switches := target })) := by
  have all (before : Switches) :
      Switch.all.foldl (fun all switch => all.set switch (target switch)) before = target := by
    funext other
    cases other <;> rfl
  simpa only [all] using reads_switches_foldl c target Switch.all

theorem reads_categories (c : Configuration) (target : Lint.Categories) :
    c.Reads (Lint.Category.all.map fun category => (category.name, .bool (target category)))
      (c.update ({ · with lint := target })) := by
  have all (before : Lint.Categories) :
      Lint.Category.all.foldl (fun all category other =>
        if other = category then target category else all other) before = target := by
    funext other
    cases other <;> rfl
  simpa only [all] using reads_categories_foldl c target Lint.Category.all

theorem readField_checksum (c : Configuration) (checksum : Checksum) :
    c.readField "checksum_type" (.text checksum.name) =
      ⟨c.update ({ · with checksum := checksum }), []⟩ := by
  cases checksum <;> rfl

theorem readField_verbosity (c : Configuration) (verbosity : Verbosity) :
    c.readField "verbosity" (.text verbosity.name) = ⟨{ c with verbosity := verbosity }, []⟩ := by
  cases verbosity <;> rfl

theorem readField_clampStart (c : Configuration) {clamp : Clamp} (valid : clamp.isValid = true) :
    c.readField "clamp_start" clamp.toValue = ⟨c.update ({ · with clampStart := clamp }), []⟩ :=
  congrArg (Reading.map fun b => c.update ({ · with clampStart := b }))
    (readClamp_valid ["clamp_start"] valid)

theorem readField_clampEnd (c : Configuration) {clamp : Clamp} (valid : clamp.isValid = true) :
    c.readField "clamp_end" clamp.toValue = ⟨c.update ({ · with clampEnd := clamp }), []⟩ :=
  congrArg (Reading.map fun b => c.update ({ · with clampEnd := b }))
    (readClamp_valid ["clamp_end"] valid)

theorem readField_outputs (c : Configuration) (outputs : List Sink) :
    c.readField "outputs" (.list (outputs.map Sink.toValue)) =
      ⟨c.update ({ · with outputs := outputs }), []⟩ :=
  congrArg (Reading.map fun l => c.update ({ · with outputs := l }))
    (readItems_map readSink Sink.toValue (fun _ _ => rfl) ["outputs"] 0 outputs)

theorem readField_overrides (c : Configuration) (overrides : List Override) :
    c.readField "output_config" (.list (overrides.map Override.toValue)) =
      ⟨c.update ({ · with outputConfig := overrides }), []⟩ :=
  congrArg (Reading.map fun l => c.update ({ · with outputConfig := l }))
    (readItems_map readOverride Override.toValue (fun _ _ => rfl) ["output_config"] 0 overrides)

theorem readField_caches (c : Configuration) (caches : List String) :
    c.readField "caches" (.texts caches) = ⟨c.update ({ · with caches := caches }), []⟩ :=
  congrArg (Reading.map fun l => c.update ({ · with caches := l }))
    (readItems_map readText Value.text (fun _ _ => rfl) ["caches"] 0 caches)

theorem readField_paths (c : Configuration) (paths : List PathEntry) :
    c.readField "paths" (.list (paths.map PathEntry.toValue)) = ⟨{ c with paths := paths }, []⟩ :=
  congrArg (Reading.map fun l => ({ c with paths := l } : Configuration))
    (readItems_map readPathEntry PathEntry.toValue (fun _ _ => rfl) ["paths"] 0 paths)

theorem reads_choices (c : Configuration) (s : Settings) (start : s.clampStart.isValid = true)
    (stop : s.clampEnd.isValid = true) :
    c.Reads
      [("checksum_type", .text s.checksum.name), ("paranoia", .integer s.paranoia),
        ("paranoid_mem", .integer s.paranoidMem), ("sort_criteria", .text s.sortCriteria),
        ("clamp_start", s.clampStart.toValue), ("clamp_end", s.clampEnd.toValue),
        ("time_filter", s.timeFilter.toValue), ("outputs", .list (s.outputs.map Sink.toValue)),
        ("output_config", .list (s.outputConfig.map Override.toValue)), ("caches", .texts s.caches),
        ("working_directory", .text s.workingDirectory), ("command_line", .text s.commandLine)]
      (c.update fun old =>
        { s with
          threads := old.threads
          depth := old.depth
          minSize := old.minSize
          maxSize := old.maxSize
          limitsSpecified := old.limitsSpecified
          switches := old.switches
          lint := old.lint }) := by
  refine Reads.cons ?_ (readField_checksum c s.checksum)
  refine Reads.cons ?_ rfl
  refine Reads.cons ?_ rfl
  refine Reads.cons ?_ rfl
  refine Reads.cons ?_ (readField_clampStart _ start)
  refine Reads.cons ?_ (readField_clampEnd _ stop)
  refine Reads.cons ?_ rfl
  refine Reads.cons ?_ (readField_outputs _ s.outputs)
  refine Reads.cons ?_ (readField_overrides _ s.outputConfig)
  refine Reads.cons ?_ (readField_caches _ s.caches)
  refine Reads.cons ?_ rfl
  refine Reads.cons ?_ rfl
  simp only [Reads, readFields, Reading.pure, update]
  rfl

/-- The fields of settings replace all settings, if the boundaries are valid. -/
theorem reads_settings (c : Configuration) (s : Settings) (start : s.clampStart.isValid = true)
    (stop : s.clampEnd.isValid = true) : c.Reads s.fields { c with settings := s } := by
  have numbers : c.Reads
      [("threads", .integer s.threads), ("depth", .integer s.depth),
        ("min_size", .integer s.minSize), ("max_size", .integer s.maxSize),
        ("limits_specified", .bool s.limitsSpecified)]
      (c.update fun old =>
        { old with
          threads := s.threads
          depth := s.depth
          minSize := s.minSize
          maxSize := s.maxSize
          limitsSpecified := s.limitsSpecified }) := rfl
  have flags := (numbers.append (reads_switches _ s.switches)).append (reads_categories _ s.lint)
  have all := flags.append (reads_choices _ s start stop)
  -- Both lists are the same only behind the name, which has to go before they are compared.
  unfold Settings.fields
  simp only [update] at all
  exact all

theorem reads_fields (c : Configuration) (start : c.settings.clampStart.isValid = true)
    (stop : c.settings.clampEnd.isValid = true) : before.Reads c.fields c := by
  have last : { before with settings := c.settings }.Reads
      [("verbosity", .text c.verbosity.name),
        ("paths", .list (c.paths.map PathEntry.toValue))] c := by
    simp only [Reads, readFields, readField_verbosity, readField_paths]
    rfl
  exact (reads_settings before c.settings start stop).append last

/-- Reading the fields of a configuration back is left to the rules about several fields. -/
theorem ofFields_fields (c : Configuration) (start : c.settings.clampStart.isValid = true)
    (stop : c.settings.clampEnd.isValid = true) : ofFields c.fields = c.checked := by
  have read : default.readFields c.fields = ⟨c, []⟩ := reads_fields c start stop
  simp only [ofFields, read, List.isEmpty_nil, ↓reduceIte]

end Configuration

end ScanSetup
