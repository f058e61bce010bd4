import ScanSetup.Options.Effect

set_option autoImplicit false

namespace ScanSetup

open Text Lint

namespace Draft

def switchCategories (d : Draft) (bundle : Categories) (on : Bool) : Draft :=
  d.update fun s => { s with lint := fun c => if bundle c then on else s.lint c }

/-- Switches the bundle of a name, or notes that there is none. -/
def switchNamed (d : Draft) (catalog : Catalog) (name : List Char) (on : Bool) : Draft :=
  match catalog.find? (String.ofList name) with
  | some bundle => d.switchCategories bundle.categories on
  | none => d.noting (unknownNotice (String.ofList name))

/-- Switches the bundle of a name on and all other categories off, or notes that there is none. -/
def replaceNamed (d : Draft) (catalog : Catalog) (name : List Char) : Draft :=
  match catalog.find? (String.ofList name) with
  | some bundle => (d.switchCategories .full false).switchCategories bundle.categories true
  | none => d.noting (unknownNotice (String.ofList name))

/-- One token. Only the token at position zero may come without a sign. -/
def applyLintToken (catalog : Catalog) (position : Nat) (d : Draft) (token : List Char) : Draft :=
  if token.isEmpty then d
  else
    match signed token with
    | (some .plus, name) => d.switchNamed catalog name true
    | (some .minus, name) => d.switchNamed catalog name false
    | (none, name) =>
      if position = 0 then d.replaceNamed catalog name
      else d.noting (unsignedNotice (String.ofList token))

def applyLintTokens (catalog : Catalog) (position : Nat) (d : Draft) : List (List Char) → Draft
  | [] => d
  | token :: rest =>
    applyLintTokens catalog (position + 1) (d.applyLintToken catalog position token) rest

/-- Merging directories looks at hidden files, and reports hard links as duplicates. -/
def includeForMerging (d : Draft) : Draft :=
  if d.settings.lint .duplicateDirs then
    d.update fun s => (s.withSwitch .ignoreHidden false).withSwitch .findHardlinkedDupes true
  else d

/-- A list of lint types, worked off on the flags. -/
def applyLintTypesInPlace (d : Draft) (catalog : Catalog) (spec : String) : Draft :=
  (d.applyLintTokens catalog 0 (pieces (separator spec) spec.toList)).includeForMerging

end Draft

namespace Lint.Selection

variable {s : Selection} {catalog : Catalog}

def Disjoint (s : Selection) : Prop := ∀ c, ¬ (s.enable c = true ∧ s.disable c = true)

theorem unchanged_disjoint : unchanged.Disjoint := by
  intro c both
  exact absurd both.1 Bool.false_ne_true

theorem Disjoint.enabling (disjoint : s.Disjoint) (bundle : Categories) :
    (s.enabling bundle).Disjoint := by
  intro c both
  simp only [Selection.enabling, Categories.union, Categories.diff, Bool.or_eq_true,
    Bool.and_eq_true, Bool.not_eq_true'] at both
  obtain ⟨enabled | added, disabled, kept⟩ := both
  · exact disjoint c ⟨enabled, disabled⟩
  · rw [added] at kept
    cases kept

theorem Disjoint.disabling (disjoint : s.Disjoint) (bundle : Categories) :
    (s.disabling bundle).Disjoint := by
  intro c both
  simp only [Selection.disabling, Categories.union, Categories.diff, Bool.or_eq_true,
    Bool.and_eq_true, Bool.not_eq_true'] at both
  obtain ⟨⟨enabled, kept⟩, disabled | added⟩ := both
  · exact disjoint c ⟨enabled, disabled⟩
  · rw [added] at kept
    cases kept

theorem Disjoint.step (disjoint : s.Disjoint) (first : Bool) (token : List Char) :
    (s.step catalog first token).Disjoint := by
  unfold Selection.step
  split
  · exact disjoint
  · dsimp only
    split
    · exact disjoint
    · split
      · exact disjoint
      · split
        · exact disjoint.enabling _
        · exact disjoint.disabling _
        · have cleared : s.cleared.Disjoint := unchanged_disjoint
          exact cleared.enabling _

theorem Disjoint.foldl (disjoint : s.Disjoint) (tokens : List (List Char)) :
    (tokens.foldl (Selection.step catalog false) s).Disjoint := by
  induction tokens generalizing s with
  | nil => exact disjoint
  | cons token rest ih => exact ih (disjoint.step false token)

theorem ofTokens_disjoint (catalog : Catalog) (tokens : List (List Char)) :
    (ofTokens catalog tokens).Disjoint := by
  cases tokens with
  | nil => exact unchanged_disjoint
  | cons token rest => exact (unchanged_disjoint.step true token).foldl rest

theorem apply_unchanged (flags : Categories) : unchanged.apply flags = flags := by
  funext c
  simp [unchanged, apply, Categories.empty]

theorem apply_enabling (s : Selection) (bundle flags : Categories) :
    (s.enabling bundle).apply flags = fun c => if bundle c then true else s.apply flags c := by
  funext c
  simp only [apply, enabling, Categories.union, Categories.diff]
  cases bundle c <;> simp

theorem apply_disabling (s : Selection) (bundle flags : Categories) :
    (s.disabling bundle).apply flags = fun c => if bundle c then false else s.apply flags c := by
  funext c
  simp only [apply, disabling, Categories.union, Categories.diff]
  cases bundle c <;> simp

theorem apply_cleared (s : Selection) (flags : Categories) :
    s.cleared.apply flags = Categories.empty := by
  funext c
  simp [apply, cleared, Categories.empty]

end Lint.Selection

namespace Draft

/-- The flags after a selection, and its notices; the switches do not follow yet. -/
def selecting (d : Draft) (s : Selection) : Draft :=
  { d with
    settings := { d.settings with lint := s.apply d.settings.lint }
    notices := d.notices ++ s.notices }

theorem selecting_unchanged (d : Draft) : d.selecting .unchanged = d := by
  simp only [selecting, Selection.apply_unchanged]
  rw [show Selection.unchanged.notices = [] from rfl, List.append_nil]

theorem selecting_noting (d : Draft) (s : Selection) (notice : String) :
    (d.selecting s).noting notice = d.selecting (s.noting notice) := by
  simp only [selecting, noting, Selection.noting, List.append_assoc]
  rfl

theorem selecting_enabling (d : Draft) (s : Selection) (bundle : Categories) :
    (d.selecting s).switchCategories bundle true = d.selecting (s.enabling bundle) := by
  simp only [selecting, switchCategories, update, Selection.apply_enabling]
  rfl

theorem selecting_disabling (d : Draft) (s : Selection) (bundle : Categories) :
    (d.selecting s).switchCategories bundle false = d.selecting (s.disabling bundle) := by
  simp only [selecting, switchCategories, update, Selection.apply_disabling]
  rfl

theorem selecting_cleared (d : Draft) (s : Selection) :
    (d.selecting s).switchCategories .full false = d.selecting s.cleared := by
  simp only [selecting, switchCategories, update, Selection.apply_cleared]
  rfl

theorem selecting_switchNamed (d : Draft) (s : Selection) (catalog : Catalog) (name : List Char)
    (on : Bool) :
    (d.selecting s).switchNamed catalog name on =
      d.selecting (match catalog.find? (String.ofList name) with
        | none => s.noting (unknownNotice (String.ofList name))
        | some bundle =>
          match on with
          | true => s.enabling bundle.categories
          | false => s.disabling bundle.categories) := by
  unfold switchNamed
  cases catalog.find? (String.ofList name) with
  | none => exact selecting_noting d s _
  | some bundle =>
    cases on with
    | true => exact selecting_enabling d s bundle.categories
    | false => exact selecting_disabling d s bundle.categories

theorem selecting_replaceNamed (d : Draft) (s : Selection) (catalog : Catalog)
    (name : List Char) :
    (d.selecting s).replaceNamed catalog name =
      d.selecting (match catalog.find? (String.ofList name) with
        | none => s.noting (unknownNotice (String.ofList name))
        | some bundle => s.cleared.enabling bundle.categories) := by
  unfold replaceNamed
  cases catalog.find? (String.ofList name) with
  | none => exact selecting_noting d s _
  | some bundle =>
    dsimp only
    rw [selecting_cleared, selecting_enabling]

theorem selecting_step (d : Draft) (s : Selection) (catalog : Catalog) (position : Nat)
    (token : List Char) :
    (d.selecting s).applyLintToken catalog position token =
      d.selecting (s.step catalog (position = 0) token) := by
  by_cases blank : token.isEmpty = true
  · simp only [applyLintToken, Selection.step, blank, ↓reduceIte]
  · simp only [applyLintToken, Selection.step, blank, ↓reduceIte, Bool.false_eq_true]
    cases signed token with
    | mk sign name =>
      cases sign with
      | none =>
        by_cases first : position = 0
        · simp only [first, Option.isNone_none, decide_true, Bool.not_true, Bool.and_false,
            ↓reduceIte, Bool.false_eq_true]
          exact selecting_replaceNamed d s catalog name
        · simp only [first, Option.isNone_none, decide_false, Bool.not_false, Bool.and_true,
            ↓reduceIte]
          exact selecting_noting d s _
      | some sign =>
        simp only [Option.isNone_some, Bool.false_and, ↓reduceIte, Bool.false_eq_true]
        cases sign with
        | plus => exact selecting_switchNamed d s catalog name true
        | minus => exact selecting_switchNamed d s catalog name false

theorem selecting_foldl (d : Draft) (s : Selection) (catalog : Catalog) (position : Nat)
    (later : position ≠ 0) (tokens : List (List Char)) :
    (d.selecting s).applyLintTokens catalog position tokens =
      d.selecting (tokens.foldl (Selection.step catalog false) s) := by
  induction tokens generalizing s position with
  | nil => rfl
  | cons token rest ih =>
    rw [applyLintTokens, selecting_step, List.foldl_cons, decide_eq_false later]
    exact ih _ (position + 1) (Nat.succ_ne_zero position)

/-- After any number of tokens the flags are those that the selection so far makes. -/
theorem applyLintTokens_eq (d : Draft) (catalog : Catalog) (tokens : List (List Char)) :
    d.applyLintTokens catalog 0 tokens = d.selecting (.ofTokens catalog tokens) := by
  cases tokens with
  | nil => exact (selecting_unchanged d).symm
  | cons token rest =>
    have first := selecting_step d .unchanged catalog 0 token
    rw [selecting_unchanged, decide_eq_true rfl] at first
    rw [applyLintTokens, first]
    exact selecting_foldl d _ catalog 1 Nat.one_ne_zero rest

theorem applySelection_eq_selecting (d : Draft) (s : Selection) :
    d.applySelection s = (d.selecting s).includeForMerging := by
  unfold applySelection includeForMerging
  by_cases merging : s.apply d.settings.lint .duplicateDirs = true
  · simp only [update, selecting, merging, ↓reduceIte]
  · simp only [update, selecting, merging, ↓reduceIte, Bool.false_eq_true]

/-- A list of lint types that is folded into a selection and applied once leaves the draft that its
tokens leave when they switch the flags one after the other. No selection on the way both enables
and disables a category. -/
theorem applyLintTypes_eq_inPlace (d : Draft) (catalog : Catalog) (spec : String) :
    d.applyLintTypes catalog spec = d.applyLintTypesInPlace catalog spec ∧
      ∀ count, (Selection.ofTokens catalog
        ((pieces (separator spec) spec.toList).take count)).Disjoint := by
  constructor
  · unfold applyLintTypes applyLintTypesInPlace
    rw [applySelection_eq_selecting, applyLintTokens_eq]
    rfl
  · intro count
    exact Selection.ofTokens_disjoint catalog _

end Draft

end ScanSetup
