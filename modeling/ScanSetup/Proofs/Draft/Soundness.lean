import ScanSetup.Proofs.Draft.Steps
import ScanSetup.Proofs.Draft.Values

set_option autoImplicit false

namespace ScanSetup

open Options Number

/-- The settings within their bounds, whatever the number of threads and the depth. -/
structure Settings.Sound (s : Settings) : Prop where
  least : 0 ≤ s.minSize
  sizes : s.minSize ≤ s.maxSize
  memory : 0 ≤ s.paranoidMem
  paranoia : -2 ≤ s.paranoia ∧ s.paranoia ≤ 3
  start : s.clampStart.isValid = true
  stop : s.clampEnd.isValid = true
  filter : s.timeFilter.enabled = true ↔ 0 < s.timeFilter.minMtime
  sinks : ∀ sink ∈ s.outputs, isFormatter sink.formatter = true
  overrides : ∀ item ∈ s.outputConfig, item.WellFormed

theorem Settings.default_sound : Settings.default.Sound where
  least := by decide
  sizes := by decide +kernel
  memory := by decide
  paranoia := by decide
  start := Binary64.isRatio_zero
  stop := Binary64.isRatio_unit
  filter := by decide
  sinks := by decide
  overrides := by simp [Settings.default]

namespace Draft

variable {d next : Draft} {env : Environment}

def Sound (d : Draft) : Prop := d.settings.Sound

theorem initial_sound (arguments : List String) (now : Binary64) (directory : String) :
    (initial arguments now directory).Sound :=
  { Settings.default_sound with }

theorem Sound.applySelection (sound : d.Sound) (selection : Lint.Selection) :
    (d.applySelection selection).Sound := by
  obtain ⟨switches, same⟩ := applySelection_eq d selection
  rw [same]
  exact { sound with }

theorem Sound.register (sound : d.Sound) (sink : Sink) (known : isFormatter sink.formatter = true) :
    (d.register sink).Sound := by
  refine { sound with sinks := ?_ }
  intro other member
  rcases List.mem_append.mp member with before | added
  · exact sound.sinks other before
  · rw [List.mem_singleton.mp added]
    exact known

theorem Sound.addOverride (sound : d.Sound) (item : Override) (valid : item.WellFormed) :
    (d.addOverride item).Sound := by
  refine { sound with overrides := ?_ }
  intro other member
  rcases List.mem_append.mp member with before | added
  · exact sound.overrides other before
  · rw [List.mem_singleton.mp added]
    exact valid

theorem Sound.setCounter (sound : d.Sound) (count : Int) (mode : OutputMode) :
    (d.setCounter count mode).Sound := by
  cases mode <;> exact { sound with }

theorem Sound.addOutput (sound : d.Sound) (mode : OutputMode) (pair : String) :
    (d.addOutput mode pair).Sound := by
  unfold Draft.addOutput
  dsimp only
  split
  · rename_i known
    exact (sound.register _ known).setCounter _ mode
  · exact { sound.setCounter _ mode with }

theorem Sound.configure (sound : d.Sound) (pair : String) : (d.configure pair).Sound := by
  unfold Draft.configure
  split
  · rename_i item read
    exact sound.addOverride item (Override.spelled_of_parse read).1
  · exact { sound with }

theorem Sound.replaceSinks (sound : d.Sound) (preset : Preset) :
    (d.replaceSinks preset.sinks).Sound :=
  { sound with sinks := preset.sinks_known }

theorem Sound.stepParanoia {delta : Int} (sound : d.Sound)
    (success : d.stepParanoia delta = .ok next) : next.Sound := by
  obtain ⟨effect, found, rfl⟩ := stepParanoia_eq_ok success
  exact { sound with paranoia := paranoiaEffect?_bounds found }

theorem Sound.filterNewer {option spec : String} (sound : d.Sound)
    (success : d.filterNewer option spec = .ok next) : next.Sound := by
  obtain ⟨stamp, notices, read, rfl⟩ := filterNewer_eq_ok success
  have positive := Time.parseStamp_positive read
  exact { sound with filter := ⟨fun _ => positive, fun _ => rfl⟩ }

theorem Sound.filterNewerThanFile {path : String} (sound : d.Sound)
    (success : d.filterNewerThanFile env path = .ok next) : next.Sound := by
  have cleared : (d.update ({ · with timeFilter := .off })).Sound :=
    { sound with filter := by simp [update, TimeFilter.off] }
  rcases filterNewerThanFile_eq_ok success with
    ⟨fault, -, -, rfl⟩ | ⟨spec, filtered, -, filter, rfl⟩
  · exact { cleared with }
  · have registered := (cleared.filterNewer filter).register ⟨stampFormatter, path⟩
      stampFormatter_known
    split
    · exact registered
    · exact registered.addOverride civilStamp civilStamp_wellFormed

theorem Sound.addCache {path : String} (sound : d.Sound)
    (success : d.addCache env path = .ok next) : next.Sound := by
  obtain ⟨-, rfl⟩ := addCache_eq_ok success
  exact { sound with }

theorem Sound.apply {effect : Effect} {value : String} (sound : d.Sound)
    (success : effect.apply env value d = .ok next) : next.Sound := by
  cases effect with
  | threads =>
    obtain ⟨n, -, rfl⟩ := map_eq_ok_iff.mp success
    exact { sound with }
  | maxDepth =>
    obtain ⟨n, -, rfl⟩ := map_eq_ok_iff.mp success
    exact { sound with }
  | sortCriteria =>
    cases success
    exact { sound with }
  | types =>
    cases success
    exact sound.applySelection _
  | sizeLimits =>
    simp only [Effect.apply] at success
    split at success
    · cases success
    · rename_i least most read
      have ordered := Size.parseRange_ordered read
      cases success
      exact { sound with least := Int.natCast_nonneg least, sizes := Int.ofNat_le.mpr ordered }
  | algorithm =>
    simp only [Effect.apply] at success
    split at success
    · cases success
    · cases success
      exact { sound with }
  | output mode =>
    cases success
    exact sound.addOutput mode value
  | paranoidMem =>
    simp only [Effect.apply] at success
    split at success
    · cases success
    · rename_i size read
      cases success
      exact { sound with memory := Int.natCast_nonneg size }
  | newerThanStamp => exact sound.filterNewerThanFile success
  | newerThan => exact sound.filterNewer success
  | clampLow =>
    obtain ⟨clamp, read, rfl⟩ := map_eq_ok_iff.mp success
    exact { sound with start := clampValue_isValid read }
  | clampTop =>
    obtain ⟨clamp, read, rfl⟩ := map_eq_ok_iff.mp success
    exact { sound with stop := clampValue_isValid read }
  | configure =>
    cases success
    exact sound.configure value
  | cache => exact sound.addCache success
  | preset sinks =>
    cases success
    exact sound.replaceSinks sinks
  | verbosity delta =>
    cases success
    exact { sound with }
  | paranoia delta => exact sound.stepParanoia success
  | mergeDirectories =>
    cases success
    exact { sound with }
  | switch target on =>
    cases success
    exact { sound with }

end Draft

end ScanSetup
