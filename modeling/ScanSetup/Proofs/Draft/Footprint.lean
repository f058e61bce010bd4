import ScanSetup.Proofs.Draft.Fields

set_option autoImplicit false

namespace ScanSetup

open Options

/-- The fields that the result of an option depends on. -/
def Options.Effect.reads (effect : Effect) : List Field := .referenceTime :: effect.writes

/-- The option compares its value with the reference time. -/
def Options.Effect.asksTime : Effect → Bool
  | .newerThan | .newerThanStamp => true
  | _ => false

namespace Draft

/-- Two results are alike: the same failure, or drafts that agree on some fields and have noted the
same since `a` and `b`. -/
inductive Parallel (fields : List Field) (a b : Draft) :
    Except Failure Draft → Except Failure Draft → Prop
  | failed (failure : Failure) : Parallel fields a b (.error failure) (.error failure)
  | applied {first second : Draft} (noted : List String) (agree : AgreeOn fields first second)
      (firstNotices : first.notices = a.notices ++ noted)
      (secondNotices : second.notices = b.notices ++ noted) :
      Parallel fields a b (.ok first) (.ok second)

variable {a b : Draft} {fields : List Field} {env : Environment} {value : String}

theorem Parallel.updated {first second : Settings → Settings}
    (agree : AgreeOn fields (a.update first) (b.update second)) :
    Parallel fields a b (.ok (a.update first)) (.ok (b.update second)) :=
  .applied [] agree (List.append_nil _).symm (List.append_nil _).symm

theorem Parallel.extend {more : List Field} {one other : Except Failure Draft}
    (alike : Parallel fields a b one other)
    (agree : ∀ first second, one = .ok first → other = .ok second →
      AgreeOn fields first second → AgreeOn more first second) :
    Parallel more a b one other := by
  cases alike with
  | failed failure => exact .failed failure
  | applied noted own firstNotices secondNotices =>
    exact .applied noted (agree _ _ rfl rfl own) firstNotices secondNotices

theorem Parallel.symm {one other : Except Failure Draft} (alike : Parallel fields a b one other) :
    Parallel fields b a other one := by
  cases alike with
  | failed failure => exact .failed failure
  | applied noted agree firstNotices secondNotices =>
    exact .applied noted (fun field member => (agree field member).symm) secondNotices firstNotices

/-- Results that are alike behind drafts that have noted the same are alike from the start. -/
theorem Parallel.behind {first second : Draft} {one other : Except Failure Draft}
    {noted : List String} (alike : Parallel fields first second one other)
    (firstNotices : first.notices = a.notices ++ noted)
    (secondNotices : second.notices = b.notices ++ noted) : Parallel fields a b one other := by
  cases alike with
  | failed failure => exact .failed failure
  | applied more agree firstMore secondMore =>
    refine .applied (noted ++ more) agree ?_ ?_
    · rw [firstMore, firstNotices, List.append_assoc]
    · rw [secondMore, secondNotices, List.append_assoc]

theorem Parallel.of_error {failure : Failure} {other : Except Failure Draft}
    (alike : Parallel fields a b (.error failure) other) : other = .error failure := by
  cases alike
  rfl

theorem Parallel.of_ok {first : Draft} {other : Except Failure Draft}
    (alike : Parallel fields a b (.ok first) other) :
    ∃ second noted, other = .ok second ∧ AgreeOn fields first second ∧
      first.notices = a.notices ++ noted ∧ second.notices = b.notices ++ noted := by
  cases alike with
  | applied noted agree firstNotices secondNotices =>
    exact ⟨_, noted, rfl, agree, firstNotices, secondNotices⟩

theorem Parallel.map_update {α : Type} {result : Except Failure α} {write : α → Settings → Settings}
    (agree : ∀ x, AgreeOn fields (a.update (write x)) (b.update (write x))) :
    Parallel fields a b (result.map fun x => a.update (write x))
      (result.map fun x => b.update (write x)) := by
  cases result with
  | error failure => exact .failed failure
  | ok x => exact .updated (agree x)

theorem AgreeOn.mono {more : List Field} (agree : AgreeOn more a b) (fewer : fields ⊆ more) :
    AgreeOn fields a b := fun field member => agree field (fewer member)

theorem agreeOn_cons {field : Field} :
    AgreeOn (field :: fields) a b ↔ a.get field = b.get field ∧ AgreeOn fields a b :=
  List.forall_mem_cons

theorem agreeOn_nil : AgreeOn [] a b := fun _ member => nomatch member

theorem agreeOn_singleton {field : Field} : AgreeOn [field] a b ↔ a.get field = b.get field :=
  List.forall_mem_singleton

theorem agreeOn_append {more : List Field} :
    AgreeOn (fields ++ more) a b ↔ AgreeOn fields a b ∧ AgreeOn more a b :=
  List.forall_mem_append

theorem applySelection_parallel (selection : Lint.Selection)
    (agree : AgreeOn Effect.types.writes a b) :
    Parallel Effect.types.writes a b (.ok (a.applySelection selection))
      (.ok (b.applySelection selection)) := by
  obtain ⟨categories, switches⟩ := agreeOn_append.mp agree
  have lint : a.settings.lint = b.settings.lint :=
    funext fun category => categories _ (List.mem_map_of_mem category.mem_all)
  obtain ⟨hidden, linked⟩ : a.settings.switches .ignoreHidden = b.settings.switches .ignoreHidden ∧
      a.settings.switches .findHardlinkedDupes = b.settings.switches .findHardlinkedDupes := by
    simpa [AgreeOn, mergingSwitches, get] using switches
  have both : AgreeOn Effect.types.writes (a.applySelection selection)
      (b.applySelection selection) := by
    unfold applySelection
    by_cases merging : selection.apply b.settings.lint .duplicateDirs = true
    · simp [Effect.writes, AgreeOn, get, update, lint, merging, mergingSwitches, Switches.set,
        Settings.withSwitch, Lint.Category.all]
    · simp [Effect.writes, AgreeOn, get, update, lint, merging, mergingSwitches, hidden, linked,
        Lint.Category.all]
  obtain ⟨_, first⟩ := applySelection_eq a selection
  obtain ⟨_, second⟩ := applySelection_eq b selection
  exact .applied selection.notices both (congrArg notices first) (congrArg notices second)

theorem addOutput_parallel (mode : OutputMode) (pair : String)
    (agree : AgreeOn (Effect.output mode).writes a b) :
    Parallel (Effect.output mode).writes a b (.ok (a.addOutput mode pair))
      (.ok (b.addOutput mode pair)) := by
  obtain ⟨outputs, count⟩ : a.settings.outputs = b.settings.outputs ∧
      a.counter mode = b.counter mode := by
    simpa [Effect.writes, AgreeOn, get] using agree
  unfold addOutput
  dsimp only
  rw [count]
  split
  · refine .applied [] ?_ ?_ ?_
    · cases mode <;>
        simp [Effect.writes, AgreeOn, get, register, setCounter, update, counter, outputs]
    · cases mode <;> simp [register, setCounter, update]
    · cases mode <;> simp [register, setCounter, update]
  · refine .applied ["Adding " ++ mode.flag ++ " " ++ pair ++ " as output failed."] ?_ ?_ ?_
    · cases mode <;> simp [Effect.writes, AgreeOn, get, noting, setCounter, counter, outputs]
    · cases mode <;> rfl
    · cases mode <;> rfl

theorem configure_parallel (pair : String) (agree : AgreeOn Effect.configure.writes a b) :
    Parallel Effect.configure.writes a b (.ok (a.configure pair)) (.ok (b.configure pair)) := by
  have overrides : a.settings.outputConfig = b.settings.outputConfig := agreeOn_singleton.mp agree
  unfold configure
  split
  · rename_i item read
    exact .updated (agreeOn_singleton.mpr (congrArg (· ++ [item]) overrides))
  · rename_i fault unread
    exact .applied [fault.message pair] agree rfl rfl

theorem stepParanoia_parallel (delta : Int) (agree : AgreeOn (Effect.paranoia delta).writes a b) :
    Parallel (Effect.paranoia delta).writes a b (a.stepParanoia delta) (b.stepParanoia delta) := by
  obtain ⟨level, checksum⟩ : a.settings.paranoia = b.settings.paranoia ∧
      a.settings.checksum = b.settings.checksum := by
    simpa [Effect.writes, AgreeOn, get] using agree
  unfold stepParanoia
  dsimp only
  rw [level]
  split
  · exact .failed _
  · exact .updated (by simp [Effect.writes, AgreeOn, get, update, checksum])
  · exact .updated (by simp [Effect.writes, AgreeOn, get, update])

theorem get_timeFilter {d : Draft} {field : Field} (filter : TimeFilter)
    (other : field ≠ .timeFilter) :
    (d.update ({ · with timeFilter := filter })).get field = d.get field := by
  cases field <;> first | rfl | exact absurd rfl other

/-- Other fields come through a filter as they are, and so does their agreement. -/
theorem AgreeOn.filtered (agree : AgreeOn fields a b) (filter : TimeFilter) :
    AgreeOn (.timeFilter :: fields) (a.update ({ · with timeFilter := filter }))
      (b.update ({ · with timeFilter := filter })) := by
  intro field member
  by_cases same : field = .timeFilter
  · subst same
    rfl
  · rw [get_timeFilter filter same, get_timeFilter filter same]
    exact agree field (List.mem_of_ne_of_mem same member)

theorem filterNewer_parallel (option spec : String) (agree : AgreeOn fields a b)
    (time : a.referenceTime = b.referenceTime) :
    Parallel (.timeFilter :: fields) a b (a.filterNewer option spec)
      (b.filterNewer option spec) := by
  unfold filterNewer
  rw [time]
  split
  · exact .failed _
  · exact .failed _
  · dsimp only
    split
    · split
      · exact .failed _
      · exact .applied [_] (agree.filtered _) rfl rfl
    · exact .updated (agree.filtered _)

/-- A stamp file that is registered, in its notation, in drafts that agree so far. -/
theorem AgreeOn.registered {sink : Sink} {stamp : String}
    (agree : AgreeOn Effect.newerThanStamp.writes a b) :
    AgreeOn Effect.newerThanStamp.writes
      (if Time.isPlain stamp then a.register sink else (a.register sink).addOverride civilStamp)
      (if Time.isPlain stamp then b.register sink
        else (b.register sink).addOverride civilStamp) := by
  obtain ⟨filter, outputs, overrides⟩ : a.settings.timeFilter = b.settings.timeFilter ∧
      a.settings.outputs = b.settings.outputs ∧
      a.settings.outputConfig = b.settings.outputConfig := by
    simpa [Effect.writes, AgreeOn, get] using agree
  split <;>
    simp [Effect.writes, AgreeOn, get, register, addOverride, update, filter, outputs, overrides]

theorem registered_notices {sink : Sink} {stamp : String} :
    (if Time.isPlain stamp then a.register sink
      else (a.register sink).addOverride civilStamp).notices = a.notices := by
  split <;> rfl

theorem filterNewerThanFile_parallel (path : String)
    (agree : AgreeOn Effect.newerThanStamp.reads a b) :
    Parallel Effect.newerThanStamp.writes a b (a.filterNewerThanFile env path)
      (b.filterNewerThanFile env path) := by
  obtain ⟨time, written⟩ := agreeOn_cons.mp agree
  have own : AgreeOn [.outputs, .outputConfig] a b := (agreeOn_cons.mp written).2
  have cleared := own.filtered .off
  unfold filterNewerThanFile
  dsimp only
  split
  · exact .failed _
  · rename_i fault _ _
    exact .applied [fault.message] cleared rfl rfl
  · rename_i stamp read
    have alike := filterNewer_parallel "--newer-than-stamp" stamp (agreeOn_cons.mp cleared).2 time
    generalize (a.update _).filterNewer "--newer-than-stamp" stamp = first at alike ⊢
    generalize (b.update _).filterNewer "--newer-than-stamp" stamp = second at alike ⊢
    cases alike with
    | failed failure => exact .failed failure
    | applied noted both firstNotices secondNotices =>
      refine .applied noted both.registered ?_ ?_
      · rw [registered_notices, firstNotices]
        rfl
      · rw [registered_notices, secondNotices]
        rfl

theorem addCache_parallel (path : String) (agree : AgreeOn Effect.cache.writes a b) :
    Parallel Effect.cache.writes a b (a.addCache env path) (b.addCache env path) := by
  have caches : a.settings.caches = b.settings.caches := agreeOn_singleton.mp agree
  unfold addCache
  split
  · exact .failed _
  · exact .updated (agreeOn_singleton.mpr (congrArg (· ++ [path]) caches))
  · exact .failed _

theorem mergeDirectories_parallel :
    Parallel Effect.mergeDirectories.writes a b (.ok a.mergeDirectories)
      (.ok b.mergeDirectories) := by
  refine .updated ?_
  simp [Effect.writes, AgreeOn, get, update, mergingSwitches, Switches.set, Lint.Categories.union,
    Lint.Categories.ofList]

/-- Options that do not ask for the time change drafts alike that agree on what they write. -/
theorem apply_parallel_untimed (effect : Effect) (env : Environment) (value : String)
    (untimed : effect.asksTime = false) (own : AgreeOn effect.writes a b) :
    Parallel effect.writes a b (effect.apply env value a) (effect.apply env value b) := by
  cases effect with
  | threads => exact .map_update fun n => agreeOn_singleton.mpr rfl
  | maxDepth => exact .map_update fun n => agreeOn_singleton.mpr rfl
  | sortCriteria => exact .updated (agreeOn_singleton.mpr rfl)
  | types => exact applySelection_parallel _ own
  | sizeLimits =>
    simp only [Effect.apply]
    cases Size.parseRange value with
    | error error => exact .failed _
    | ok limits => exact .updated (by simp [Effect.writes, AgreeOn, get, update])
  | algorithm =>
    simp only [Effect.apply]
    cases Checksum.parse? value with
    | none => exact .failed _
    | some checksum => exact .updated (agreeOn_singleton.mpr rfl)
  | output mode => exact addOutput_parallel mode value own
  | paranoidMem =>
    simp only [Effect.apply]
    cases Size.parse value with
    | error error => exact .failed _
    | ok size => exact .updated (agreeOn_singleton.mpr rfl)
  | newerThanStamp => cases untimed
  | newerThan => cases untimed
  | clampLow => exact .map_update fun clamp => agreeOn_singleton.mpr rfl
  | clampTop => exact .map_update fun clamp => agreeOn_singleton.mpr rfl
  | configure => exact configure_parallel value own
  | cache => exact addCache_parallel value own
  | preset sinks =>
    exact .applied [] (by simp [Effect.writes, AgreeOn, get, replaceSinks, update])
      (List.append_nil _).symm (List.append_nil _).symm
  | verbosity delta =>
    have count : a.verbosityCount = b.verbosityCount := agreeOn_singleton.mp own
    exact .applied [] (agreeOn_singleton.mpr (congrArg (· + delta) count))
      (List.append_nil _).symm (List.append_nil _).symm
  | paranoia delta => exact stepParanoia_parallel delta own
  | mergeDirectories => exact mergeDirectories_parallel
  | switch target on =>
    refine .updated (agreeOn_singleton.mpr ?_)
    simp [get, update, Settings.withSwitch, Switches.set]

/-- Drafts that agree on what an option reads are changed alike in what it writes. -/
theorem apply_parallel (effect : Effect) (env : Environment) (value : String)
    (agree : AgreeOn effect.reads a b) :
    Parallel effect.writes a b (effect.apply env value a) (effect.apply env value b) := by
  obtain ⟨time, own⟩ := agreeOn_cons.mp agree
  cases asks : effect.asksTime with
  | false => exact apply_parallel_untimed effect env value asks own
  | true =>
    cases effect with
    | newerThanStamp => exact filterNewerThanFile_parallel value agree
    | newerThan => exact filterNewer_parallel "--newer-than" value agreeOn_nil time
    | _ => cases asks

/-- What an option does not write it leaves as it is, so drafts that agree on more, and are changed
alike in what it writes, still agree on it afterwards. -/
theorem AgreeOn.framed {effect : Effect} {first second : Draft} (agree : AgreeOn fields a b)
    (one : effect.apply env value a = .ok first) (other : effect.apply env value b = .ok second)
    (own : AgreeOn effect.writes first second) : AgreeOn fields first second := by
  intro field member
  by_cases written : field ∈ effect.writes
  · exact own field written
  · rw [(change_of_apply one).get_eq written, (change_of_apply other).get_eq written]
    exact agree field member

/-- Drafts that agree on all that an option reads, and on more, still agree on it afterwards. -/
theorem apply_parallel_of_subset {effect : Effect} (read : effect.reads ⊆ fields)
    (agree : AgreeOn fields a b) :
    Parallel fields a b (effect.apply env value a) (effect.apply env value b) :=
  (apply_parallel effect env value (agree.mono read)).extend fun _ _ => agree.framed

end Draft

end ScanSetup
