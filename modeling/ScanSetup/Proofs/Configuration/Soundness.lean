import ScanSetup.Proofs.Configuration.Reading
import ScanSetup.Proofs.Draft.Soundness
import ScanSetup.Resolution

set_option autoImplicit false

namespace ScanSetup

open Options

/-- The boundaries of a read window are in order; those of different kinds are not compared. -/
def Clamp.Precedes : Clamp → Clamp → Prop
  | .absolute start, .absolute stop => start < stop
  | .fractional start, .fractional stop => start.lt stop = true
  | _, _ => True

theorem Clamp.precedes_of_not_inverted {start stop : Clamp} (first : start.isValid = true)
    (second : stop.isValid = true) (ordered : start.inverted stop = false) :
    start.Precedes stop := by
  cases start with
  | absolute low =>
    cases stop with
    | absolute high =>
      simp only [inverted, decide_eq_false_iff_not] at ordered
      simp only [Precedes]
      omega
    | fractional high => trivial
  | fractional low =>
    cases stop with
    | absolute high => trivial
    | fractional high => exact Number.Binary64.lt_of_isRatio first second ordered

namespace PathList

theorem collect_nonempty {access : String → Except AccessFault String}
    {stdin fallback : String} {arguments : List String} {list : PathList}
    (success : collect access stdin fallback arguments = .ok list) : list.entries ≠ [] := by
  unfold collect at success
  split at success
  rename_i collected isPreferred _
  split at success
  · rename_i found
    cases success
    simpa using found
  · split at success
    · cases success
    · dsimp only at success
      split at success
      · cases success
      · rename_i found
        cases success
        simpa using found

end PathList

namespace Draft

variable {d final : Draft} {env : Environment}

/-- A run over all tokens keeps the settings within their bounds. -/
theorem Sound.applyTokens {error? : Option UsageError} {positionals : List String}
    {tokens : List (Token Effect)} (sound : d.Sound)
    (success : (d.applyTokens env error? positionals tokens).outcome = .ok final) :
    final.Sound := by
  induction tokens generalizing d positionals with
  | nil =>
    cases error? with
    | none =>
      cases success
      exact { sound with }
    | some error => cases success
  | cons token rest ih =>
    cases token with
    | path value => exact ih sound success
    | option spec value written =>
      unfold Draft.applyTokens at success
      split at success
      · cases success
      · rename_i next applied
        exact ih (sound.apply applied) success

theorem sinks_known {sinks : List Sink} (sound : d.Sound) (success : d.sinks = .ok sinks) :
    ∀ sink ∈ sinks, isFormatter sink.formatter = true := by
  unfold Draft.sinks at success
  split at success
  · cases success
  · split at success
    · cases success
      exact sound.sinks
    · cases success
      intro sink member
      rcases List.mem_append.mp member with preset | added
      · exact Preset.report.sinks_known sink preset
      · exact sound.sinks sink added

theorem conflict?_eq_none (calm : d.conflict? = none) :
    ¬ (d.settings.switches .keepAllTagged = true ∧ d.settings.switches .keepAllUntagged = true) ∧
      d.settings.clampStart.inverted d.settings.clampEnd = false := by
  unfold conflict? at calm
  split at calm
  · cases calm
  · rename_i apart
    split at calm
    · cases calm
    · rename_i ordered
      exact ⟨by simpa using apart, by simpa using ordered⟩

end Draft

/-- The configuration of a run that may or may not be interactive: every value lies within its
bounds, and the values agree with each other. -/
structure Configuration.Sound (c : Configuration) (interactive : Bool) : Prop where
  threads : 1 ≤ c.settings.threads ∧ c.settings.threads ≤ 128
  depth : 1 ≤ c.settings.depth ∧ c.settings.depth ≤ 2049
  settings : c.settings.Sound
  keepAll :
    ¬ (c.settings.switches .keepAllTagged = true ∧ c.settings.switches .keepAllUntagged = true)
  window : c.settings.clampStart.Precedes c.settings.clampEnd
  paths : c.paths ≠ []
  color : c.settings.switches .color = true → interactive = true

namespace Configuration

variable {c config : Configuration}

theorem Sound.checked_eq {interactive : Bool} (sound : c.Sound interactive) :
    c.checked = .ok c := by
  have sizes : ¬ c.settings.maxSize < c.settings.minSize := by
    have ordered := sound.settings.sizes
    omega
  have keepAll :
      ¬ (c.settings.switches .keepAllTagged && c.settings.switches .keepAllUntagged) = true := by
    simpa using sound.keepAll
  simp only [checked, brokenRule?, sizes, keepAll, ↓reduceIte, Bool.false_eq_true]

theorem checked_eq_ok (success : c.checked = .ok config) : config = c := by
  unfold checked at success
  split at success
  · cases success
  · exact (Except.ok.inj success).symm

end Configuration

/-- A draft whose conflicts, paths and sinks have been settled becomes a sound configuration. -/
theorem Draft.Sound.configuration {d : Draft} {env : Environment} {list : PathList}
    {sinks : List Sink} (sound : d.Sound) (interactive : Bool) (calm : d.conflict? = none)
    (found : PathList.collect env.access env.stdin (d.fallback env) d.positionals = .ok list)
    (settled : d.sinks = .ok sinks) :
    (d.configuration interactive list.entries sinks).Sound interactive := by
  obtain ⟨apart, ordered⟩ := conflict?_eq_none calm
  refine ⟨?_, ?_, { sound with sinks := sinks_known sound settled }, apart,
    Clamp.precedes_of_not_inverted sound.start sound.stop ordered,
    PathList.collect_nonempty found, ?_⟩
  · simp only [Draft.configuration, limit, Settings.minThreads, Settings.maxThreads]
    omega
  · simp only [Draft.configuration, limit, Settings.minDepth, Settings.maxDepth,
      Settings.longestPath]
    omega
  · intro colored
    have both : (d.settings.switches .color && interactive) = true := colored
    exact (Bool.and_eq_true_iff.mp both).2

end ScanSetup
