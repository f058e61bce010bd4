import ScanSetup.Options.Effect

set_option autoImplicit false

namespace ScanSetup

open Options

namespace Draft

def withPositionals (d : Draft) (paths : List String) : Draft := { d with positionals := paths }

def relocate (paths : List String) (result : Except Failure Draft) : Except Failure Draft :=
  result.map (·.withPositionals paths)

variable (d : Draft) (env : Environment) (paths : List String)

theorem applySelection_frame (selection : Lint.Selection) :
    (d.withPositionals paths).applySelection selection =
      (d.applySelection selection).withPositionals paths := by
  unfold applySelection
  by_cases merging : selection.apply d.settings.lint .duplicateDirs = true
  · simp only [update, withPositionals, merging, ↓reduceIte]
  · simp only [update, withPositionals, merging, ↓reduceIte, Bool.false_eq_true]

theorem setCounter_frame (count : Int) (mode : OutputMode) :
    (d.withPositionals paths).setCounter count mode =
      (d.setCounter count mode).withPositionals paths := by
  cases mode <;> rfl

theorem addOutput_frame (mode : OutputMode) (pair : String) :
    (d.withPositionals paths).addOutput mode pair =
      (d.addOutput mode pair).withPositionals paths := by
  have same : (d.withPositionals paths).counter mode = d.counter mode := by cases mode <;> rfl
  unfold addOutput
  dsimp only
  rw [same]
  split
  · exact setCounter_frame (d.register _) paths _ mode
  · rw [setCounter_frame]
    rfl

theorem configure_frame (pair : String) :
    (d.withPositionals paths).configure pair = (d.configure pair).withPositionals paths := by
  unfold configure
  split
  · rfl
  · rfl

theorem stepParanoia_frame (delta : Int) :
    (d.withPositionals paths).stepParanoia delta = relocate paths (d.stepParanoia delta) := by
  unfold stepParanoia
  dsimp only [withPositionals]
  split
  · rfl
  · rfl
  · rfl

theorem filterNewer_frame (option spec : String) :
    (d.withPositionals paths).filterNewer option spec =
      relocate paths (d.filterNewer option spec) := by
  unfold filterNewer
  dsimp only [withPositionals]
  split
  · rfl
  · rfl
  · split
    · split
      · rfl
      · rfl
    · rfl

theorem filterNewerThanFile_frame (path : String) :
    (d.withPositionals paths).filterNewerThanFile env path =
      relocate paths (d.filterNewerThanFile env path) := by
  unfold filterNewerThanFile
  dsimp only
  split
  · rfl
  · rfl
  · rename_i stamp read
    have cleared := filterNewer_frame (d.update ({ · with timeFilter := .off })) paths
      "--newer-than-stamp" stamp
    rw [show (d.withPositionals paths).update _ =
      (d.update ({ · with timeFilter := .off })).withPositionals paths from rfl, cleared]
    cases (d.update ({ · with timeFilter := .off })).filterNewer "--newer-than-stamp" stamp with
    | error failure => rfl
    | ok filtered =>
      simp only [relocate, Except.map]
      split
      · rfl
      · rfl

theorem addCache_frame (path : String) :
    (d.withPositionals paths).addCache env path = relocate paths (d.addCache env path) := by
  unfold addCache
  split
  · rfl
  · rfl
  · rfl

end Draft

open Draft

/-- Every option does the same whatever paths there are, and leaves them as they are. -/
theorem Options.Effect.apply_frame (effect : Effect) (env : Environment) (value : String)
    (d : Draft) (paths : List String) :
    effect.apply env value (d.withPositionals paths) =
      relocate paths (effect.apply env value d) := by
  cases effect with
  | threads =>
    simp only [Effect.apply]
    cases integerValue "threads" value <;> rfl
  | maxDepth =>
    simp only [Effect.apply]
    cases integerValue "max-depth" value <;> rfl
  | sortCriteria => rfl
  | types => exact congrArg Except.ok (applySelection_frame d paths _)
  | sizeLimits =>
    simp only [Effect.apply]
    cases Size.parseRange value <;> rfl
  | algorithm =>
    simp only [Effect.apply]
    cases Checksum.parse? value <;> rfl
  | output mode => exact congrArg Except.ok (addOutput_frame d paths mode value)
  | paranoidMem =>
    simp only [Effect.apply]
    cases Size.parse value <;> rfl
  | newerThanStamp => exact filterNewerThanFile_frame d env paths value
  | newerThan => exact filterNewer_frame d paths "--newer-than" value
  | clampLow =>
    simp only [Effect.apply]
    cases clampValue value <;> rfl
  | clampTop =>
    simp only [Effect.apply]
    cases clampValue value <;> rfl
  | configure => exact congrArg Except.ok (configure_frame d paths value)
  | cache => exact addCache_frame d env paths value
  | preset sinks => rfl
  | verbosity delta => rfl
  | paranoia delta => exact stepParanoia_frame d paths delta
  | mergeDirectories => rfl
  | switch target on => rfl

end ScanSetup
