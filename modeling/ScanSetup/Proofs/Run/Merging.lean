import ScanSetup.Proofs.Run.Exchange

set_option autoImplicit false

namespace ScanSetup

open Options

/-- The occurrence is one of the option with a long name. -/
def Occurrence.Names (o : Occurrence) (long : String) : Prop :=
  ∃ spec ∈ table, spec.long = long ∧ spec.meaning = o.effect

/-- The occurrence is one of the options that may turn merging directories on. -/
def Occurrence.MayMerge (o : Occurrence) : Prop := o.Names "types" ∨ o.Names "merge-directories"

/-- An option occurs behind the last one that may turn merging directories on. -/
def OccursSinceMerging (long : String) (occurrences : List Occurrence) : Prop :=
  ∃ front merging back, occurrences = front ++ merging :: back ∧ merging.MayMerge ∧
    (∀ later ∈ back, ¬later.MayMerge) ∧ ∃ later ∈ back, later.Names long

/-- An option is named by the long name of its effect, and by no other. -/
theorem Occurrence.names_iff {o : Occurrence} {long : String} {short? : Option String}
    {effect : Effect} (named : effect.names? = some (long, short?)) :
    o.Names long ↔ o.effect = effect := by
  constructor
  · rintro ⟨spec, member, called, same⟩
    rw [← same]
    exact (long_eq_iff named member).mp called
  · intro same
    obtain ⟨spec, member, own, called, -⟩ := names?_eq_some_iff.mp named
    exact ⟨spec, member, called, own.trans same.symm⟩

theorem Occurrence.mayMerge_iff {o : Occurrence} :
    o.MayMerge ↔ o.effect = .types ∨ o.effect = .mergeDirectories :=
  or_congr (names_iff rfl) (names_iff rfl)

theorem exists_last {α : Type} (p : α → Prop) (l : List α) :
    (∀ x ∈ l, ¬p x) ∨ ∃ front x back, l = front ++ x :: back ∧ p x ∧ ∀ y ∈ back, ¬p y := by
  classical
  induction l with
  | nil => exact .inl fun x member => nomatch member
  | cons x rest ih =>
    rcases ih with none | ⟨front, last, back, rfl, holds, after⟩
    · by_cases here : p x
      · exact .inr ⟨[], x, rest, rfl, here, none⟩
      · exact .inl (List.forall_mem_cons.mpr ⟨here, none⟩)
    · exact .inr ⟨x :: front, last, back, rfl, holds, after⟩

namespace Draft

variable {d next last : Draft} {env : Environment} {o : Occurrence}
variable {occurrences back : List Occurrence} {target : Switch}

/-- Directories are merged, with hidden files and hard links. -/
structure MergesPrepared (d : Draft) : Prop where
  hidden : d.settings.switches .ignoreHidden = false
  linked : d.settings.switches .findHardlinkedDupes = true

/-- An option that may turn merging on prepares it if it is on afterwards. -/
theorem prepared_of_mayMerge (merging : o.MayMerge) (applied : o.apply env d = .ok next)
    (on : next.settings.lint .duplicateDirs = true) : next.MergesPrepared := by
  obtain ⟨effect, value⟩ := o
  rcases Occurrence.mayMerge_iff.mp merging with types | directories
  · obtain rfl : effect = .types := types
    cases applied
    unfold applyLintTypes applySelection at on ⊢
    dsimp only at on ⊢
    split
    · exact ⟨rfl, rfl⟩
    · rename_i off
      rw [if_neg off] at on
      exact absurd on off
  · obtain rfl : effect = .mergeDirectories := directories
    cases applied
    exact ⟨rfl, rfl⟩

theorem duplicateDirs_not_written (calm : ∀ o ∈ occurrences, ¬o.MayMerge) :
    .category .duplicateDirs ∉ writesOf occurrences := by
  intro member
  obtain ⟨o, inside, written⟩ := List.mem_flatMap.mp member
  refine calm o inside (Occurrence.mayMerge_iff.mpr ?_)
  cases effect : o.effect <;> simp [effect, Effect.writes] at written ⊢

theorem switch_of_calm (calm : ¬o.MayMerge) (applied : o.apply env d = .ok next)
    (target : Switch) :
    next.settings.switches target = d.settings.switches target ∨
      o.effect = .switch target (next.settings.switches target) := by
  by_cases written : .switch target ∈ o.effect.writes
  · have own : ∃ on, o.effect = .switch target on := by
      rw [Occurrence.mayMerge_iff, not_or] at calm
      cases effect : o.effect <;> simp_all [Effect.writes]
    obtain ⟨on, same⟩ := own
    rw [Occurrence.apply, same] at applied
    cases applied
    refine .inr ?_
    simp [same, update, Settings.withSwitch, Switches.set]
  · exact .inl ((change_of_apply applied).get_eq written)

/-- At the end of options that do not merge, a switch is where it was, or where one of them has put
it. -/
theorem applyHistory_calm (calm : ∀ o ∈ occurrences, ¬o.MayMerge)
    (success : d.applyHistory env occurrences = .ok last) (target : Switch) :
    last.settings.switches target = d.settings.switches target ∨
      ∃ o ∈ occurrences, o.effect = .switch target (last.settings.switches target) := by
  induction occurrences using List.reverseRecOn generalizing last with
  | nil =>
    cases success
    exact .inl rfl
  | append_singleton front o ih =>
    obtain ⟨middle, reached, applied⟩ := applyHistory_concat_eq_ok success
    rcases switch_of_calm (calm o (by simp)) applied target with kept | put
    · rw [kept]
      rcases ih (fun o member => calm o (List.mem_append_left _ member)) reached with same | before
      · exact .inl same
      · obtain ⟨earlier, member, put⟩ := before
        exact .inr ⟨earlier, List.mem_append_left _ member, put⟩
    · exact .inr ⟨o, by simp, put⟩

/-- Options behind the last one that merges have moved a switch by the option that puts it there. -/
theorem occursSinceMerging_of_moved {front : List Occurrence} {long : String}
    {short? : Option String} {on : Bool}
    (named : Effect.names? (.switch target on) = some (long, short?))
    (merging : o.MayMerge) (calm : ∀ later ∈ back, ¬later.MayMerge)
    (success : next.applyHistory env back = .ok last)
    (before : next.settings.switches target ≠ on) (after : last.settings.switches target = on) :
    OccursSinceMerging long (front ++ o :: back) := by
  subst after
  rcases applyHistory_calm calm success target with same | ⟨later, member, put⟩
  · exact absurd same.symm before
  · exact ⟨front, o, back, rfl, merging, calm, later, member, (Occurrence.names_iff named).mpr put⟩

/-- Where merging is on, the last option that may have turned it on has prepared it, and the options
behind it moved what is missing. -/
theorem occursSinceMerging_of_unprepared (success : d.applyHistory env occurrences = .ok last)
    (first : d.settings.lint .duplicateDirs = false)
    (on : last.settings.lint .duplicateDirs = true) :
    (last.settings.switches .ignoreHidden = true → OccursSinceMerging "no-hidden" occurrences) ∧
      (last.settings.switches .findHardlinkedDupes = false →
        OccursSinceMerging "no-hardlinked" occurrences) := by
  rcases exists_last Occurrence.MayMerge occurrences with
    calm | ⟨front, merging, back, rfl, mayMerge, calm⟩
  · have kept := applyHistory_get_eq (duplicateDirs_not_written calm) success
    simp only [get, first, on] at kept
    cases kept
  · obtain ⟨middle, -, behind⟩ := applyHistory_append_eq_ok.mp success
    unfold applyHistory at behind
    split at behind
    · cases behind
    · rename_i next applied
      have since : next.settings.lint .duplicateDirs = true :=
        (applyHistory_get_eq (duplicateDirs_not_written calm) behind).symm.trans on
      have prepared := prepared_of_mayMerge mayMerge applied since
      exact ⟨occursSinceMerging_of_moved rfl mayMerge calm behind (by simp [prepared.hidden]),
        occursSinceMerging_of_moved rfl mayMerge calm behind (by simp [prepared.linked])⟩

end Draft

/-- Merging directories never misses what it needs by accident: if it is on after options that could
all be applied, and hidden files are ignored, then `--no-hidden` stands behind the last `--types` or
`--merge-directories`; and if hard links are not reported, then `--no-hardlinked` does. -/
theorem applyArguments_merging {env : Environment} {arguments : List String} {final : Draft}
    (success : ((Draft.initial arguments env.now env.workingDirectory).applyArguments
      env arguments).outcome = .ok final)
    (on : final.settings.lint .duplicateDirs = true) :
    (final.settings.switches .ignoreHidden = true →
      OccursSinceMerging "no-hidden" (history arguments)) ∧
    (final.settings.switches .findHardlinkedDupes = false →
      OccursSinceMerging "no-hardlinked" (history arguments)) := by
  obtain ⟨last, applied, rfl⟩ := Draft.applyArguments_eq_ok success
  have off : (Draft.initial arguments env.now env.workingDirectory).settings.lint .duplicateDirs =
      false := rfl
  have prepared := Draft.occursSinceMerging_of_unprepared applied off on
  exact prepared

def remergingArguments : List String :=
  ["-D", "-R", "-T", "all,-dd", "-L", "--types=minimaldirs", "-rl", "-RL", "/music"]

theorem applyArguments_merging_remergingArguments :
    ∃ final, ((Draft.initial remergingArguments Environment.stampFiles.now
        Environment.stampFiles.workingDirectory).applyArguments .stampFiles
        remergingArguments).outcome = .ok final ∧
      final.settings.lint .duplicateDirs = true ∧
      final.settings.switches .ignoreHidden = true ∧
      final.settings.switches .findHardlinkedDupes = false ∧
      OccursSinceMerging "no-hidden" (history remergingArguments) ∧
      OccursSinceMerging "no-hardlinked" (history remergingArguments) := by
  have shown : (((Draft.initial remergingArguments Environment.stampFiles.now
      Environment.stampFiles.workingDirectory).applyArguments .stampFiles
      remergingArguments).outcome.map fun final =>
        (final.settings.lint .duplicateDirs, final.settings.switches .ignoreHidden,
          final.settings.switches .findHardlinkedDupes)).toOption = some (true, true, false) := by
    decide +kernel
  cases success : ((Draft.initial remergingArguments Environment.stampFiles.now
      Environment.stampFiles.workingDirectory).applyArguments .stampFiles
      remergingArguments).outcome with
  | error failure =>
    rw [success] at shown
    cases shown
  | ok final =>
    rw [success] at shown
    simp only [Except.map, Except.toOption, Option.some.injEq, Prod.mk.injEq] at shown
    obtain ⟨on, hidden, unlinked⟩ := shown
    obtain ⟨noHidden, noHardlinked⟩ := applyArguments_merging success on
    exact ⟨final, rfl, on, hidden, unlinked, noHidden hidden, noHardlinked unlinked⟩

end ScanSetup
