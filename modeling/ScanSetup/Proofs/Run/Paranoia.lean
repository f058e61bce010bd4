import ScanSetup.Proofs.Draft.Fields
import ScanSetup.Proofs.Draft.Soundness
import ScanSetup.Proofs.Run.History
import Mathlib.Data.List.Infix

set_option autoImplicit false

namespace ScanSetup

open Options

/-- The level of paranoia that options lead to: the steps up less the steps down. -/
def paranoiaLevel (occurrences : List Occurrence) : Int :=
  occurrences.countP (fun o => o.effect = .paranoia 1) -
    occurrences.countP (fun o => o.effect = .paranoia (-1))

/-- The levels of paranoia there are. -/
def IsParanoiaLevel (level : Int) : Prop := -2 ≤ level ∧ level ≤ 3

instance (level : Int) : Decidable (IsParanoiaLevel level) :=
  inferInstanceAs (Decidable (_ ∧ _))

/-- The option is the first step of a command line behind which its level is none of those there
are. -/
structure LeavesLevels (front : List Occurrence) (o : Occurrence) : Prop where
  moves : o.effect = .paranoia 1 ∨ o.effect = .paranoia (-1)
  before : ∀ others, others <+: front → IsParanoiaLevel (paranoiaLevel others)
  behind : ¬ IsParanoiaLevel (paranoiaLevel (front ++ [o]))

/-- The algorithm that an option behind others chooses: the one that it names, or that of the level
that it leads to. Level zero chooses none. -/
def Occurrence.choice? (front : List Occurrence) (o : Occurrence) : Option Checksum :=
  match o.effect with
  | .algorithm => Checksum.parse? o.value
  | .paranoia _ =>
    match paranoiaEffect? (paranoiaLevel (front ++ [o])) with
    | some (.choose algorithm) => some algorithm
    | _ => none
  | _ => none

def choices (front : List Occurrence) : List Occurrence → List Checksum
  | [] => []
  | o :: rest => (o.choice? front).toList ++ choices (front ++ [o]) rest

def noSuchLevel : Failure := .config (.conflict .paranoiaOutOfRange)

def FromTable (occurrences : List Occurrence) : Prop :=
  ∀ o ∈ occurrences, o.effect ∈ table.map (·.meaning)

theorem FromTable.front {front back : List Occurrence} (known : FromTable (front ++ back)) :
    FromTable front :=
  fun o member => known o (List.mem_append_left _ member)

/-! ### One step -/

theorem paranoiaEffect?_eq_none_iff {level : Int} :
    paranoiaEffect? level = none ↔ ¬ IsParanoiaLevel level := by
  constructor
  · rintro missing ⟨least, most⟩
    have all : level = -2 ∨ level = -1 ∨ level = 0 ∨ level = 1 ∨ level = 2 ∨ level = 3 := by omega
    rcases all with rfl | rfl | rfl | rfl | rfl | rfl <;> cases missing
  · intro outside
    cases found : paranoiaEffect? level with
    | none => rfl
    | some effect => exact absurd (paranoiaEffect?_bounds found) outside

/-- By how much an option moves the level of paranoia. -/
def Options.Effect.paranoiaStep : Effect → Int
  | .paranoia delta => delta
  | _ => 0

theorem paranoiaStep_known {effect : Effect} (known : effect ∈ table.map (·.meaning)) :
    effect.paranoiaStep =
      (if effect = .paranoia 1 then 1 else 0) - (if effect = .paranoia (-1) then 1 else 0) := by
  revert effect
  decide

theorem paranoiaLevel_concat {front : List Occurrence} {o : Occurrence}
    (known : FromTable (front ++ [o])) :
    paranoiaLevel (front ++ [o]) = paranoiaLevel front + o.effect.paranoiaStep := by
  rw [paranoiaStep_known (known o (by simp))]
  simp only [paranoiaLevel, List.countP_append, List.countP_singleton, decide_eq_true_eq,
    Int.natCast_add, apply_ite Nat.cast, Int.natCast_one, Int.natCast_zero]
  omega

namespace Draft

variable {env : Environment} {d next last : Draft} {effect : Effect} {value : String}

theorem stepParanoia_eq_error_iff {delta : Int} {failure : Failure} :
    d.stepParanoia delta = .error failure ↔
      failure = noSuchLevel ∧ ¬ IsParanoiaLevel (d.settings.paranoia + delta) := by
  rw [← paranoiaEffect?_eq_none_iff, stepParanoia]
  cases paranoiaEffect? (d.settings.paranoia + delta) with
  | none => simp [noSuchLevel, eq_comm]
  | some choice => cases choice <;> simp

theorem filterNewer_ne_noSuchLevel {option spec : String} :
    d.filterNewer option spec ≠ .error noSuchLevel := by
  unfold filterNewer
  split
  · simp [noSuchLevel]
  · simp [noSuchLevel]
  · dsimp only
    split
    · split <;> simp [noSuchLevel]
    · simp

theorem filterNewerThanFile_ne_noSuchLevel {path : String} :
    d.filterNewerThanFile env path ≠ .error noSuchLevel := by
  unfold filterNewerThanFile
  dsimp only
  split
  · simp [noSuchLevel]
  · simp
  · split
    · rename_i failure failed
      intro same
      cases same
      exact filterNewer_ne_noSuchLevel failed
    · simp

theorem unread_ne_noSuchLevel {ε : Type} {announce : ε → ConfigError} {reason : Number.Unread ε}
    (other : ∀ e, announce e ≠ .conflict .paranoiaOutOfRange) :
    unread announce reason ≠ noSuchLevel := by
  cases reason <;> simp [unread, noSuchLevel, other]

theorem clampValue_ne_noSuchLevel : clampValue value ≠ .error noSuchLevel := by
  rw [clampValue, Ne, mapError_eq_error_iff]
  rintro ⟨reason, -, same⟩
  exact unread_ne_noSuchLevel (by simp) same

/-- Only a step of the level fails for want of a level. -/
theorem apply_eq_noSuchLevel_iff :
    effect.apply env value d = .error noSuchLevel ↔
      ∃ delta, effect = .paranoia delta ∧ ¬ IsParanoiaLevel (d.settings.paranoia + delta) := by
  cases effect with
  | paranoia delta => simp [Effect.apply, stepParanoia_eq_error_iff]
  | newerThanStamp => simp [Effect.apply, filterNewerThanFile_ne_noSuchLevel]
  | newerThan => simp [Effect.apply, filterNewer_ne_noSuchLevel]
  | threads | maxDepth =>
    simp only [Effect.apply, integerValue]
    split <;> simp [noSuchLevel, Except.map]
  | clampLow | clampTop =>
    simp [Effect.apply, map_eq_error_iff, clampValue_ne_noSuchLevel]
  | cache =>
    simp only [Effect.apply, addCache]
    split <;> simp [noSuchLevel]
  | sizeLimits | paranoidMem =>
    simp only [Effect.apply]
    split <;> simp [unread_ne_noSuchLevel]
  | algorithm =>
    simp only [Effect.apply]
    split <;> simp [noSuchLevel]
  | _ => simp [Effect.apply]

theorem apply_level {front : List Occurrence} {o : Occurrence} (known : FromTable (front ++ [o]))
    (level : d.settings.paranoia = paranoiaLevel front) (success : o.apply env d = .ok next) :
    next.settings.paranoia = paranoiaLevel (front ++ [o]) ∧
      next.settings.checksum = (o.choice? front).getD d.settings.checksum := by
  have moved := paranoiaLevel_concat known
  have change : d.Change env o.effect o.value next := change_of_apply success
  obtain ⟨effect, value⟩ := o
  rw [← level] at moved
  cases effect with
  | paranoia delta =>
    obtain ⟨choice, found, rfl⟩ := stepParanoia_eq_ok success
    refine ⟨moved.symm, ?_⟩
    rw [show d.settings.paranoia + delta = _ from moved.symm] at found
    cases choice <;> simp [Occurrence.choice?, found, update]
  | algorithm =>
    cases change with
    | algorithm read =>
      refine ⟨?_, by simp [Occurrence.choice?, read, update]⟩
      rw [moved]
      exact (Int.add_zero _).symm
  | _ =>
    -- No other option writes one of the two fields.
    have kept : next.get .paranoia = d.get .paranoia := change.get_eq (by simp [Effect.writes])
    have same : next.get .checksum = d.get .checksum := change.get_eq (by simp [Effect.writes])
    refine ⟨?_, same⟩
    rw [moved]
    exact kept.trans (Int.add_zero _).symm

/-! ### A run -/

theorem applyHistory_level (front : List Occurrence) {rest : List Occurrence}
    (known : FromTable (front ++ rest)) (level : d.settings.paranoia = paranoiaLevel front)
    (success : d.applyHistory env rest = .ok last) :
    last.settings.paranoia = paranoiaLevel (front ++ rest) ∧
      last.settings.checksum = ((choices front rest).getLast?).getD d.settings.checksum := by
  induction rest generalizing d front with
  | nil =>
    cases success
    exact ⟨by rw [List.append_nil, level], rfl⟩
  | cons o rest ih =>
    rw [List.append_cons] at known ⊢
    unfold applyHistory at success
    split at success
    · cases success
    · rename_i next applied
      obtain ⟨stepped, chosen⟩ := apply_level known.front level applied
      obtain ⟨reached, final⟩ := ih (front ++ [o]) known stepped success
      refine ⟨reached, ?_⟩
      rw [final, chosen, choices, List.getLast?_append]
      cases (choices (front ++ [o]) rest).getLast? with
      | some algorithm => rfl
      | none => cases o.choice? front <;> rfl

section

variable {front : List Occurrence} (known : FromTable front) (start : d.settings.paranoia = 0)

include known start

theorem level_of_applied (success : d.applyHistory env front = .ok last) :
    last.settings.paranoia = paranoiaLevel front :=
  (applyHistory_level [] known start success).1

/-- Options that could be applied have not left the levels, not even in between. -/
theorem isParanoiaLevel_of_applied (sound : d.Sound)
    (success : d.applyHistory env front = .ok last) :
    ∀ others, others <+: front → IsParanoiaLevel (paranoiaLevel others) := by
  rintro others ⟨more, rfl⟩
  obtain ⟨middle, reached, -⟩ := applyHistory_append_eq_ok.mp success
  have bounds : middle.Sound :=
    applyHistory_invariant Draft.Sound (fun _ _ _ applied sound => sound.apply applied) reached
      sound
  rw [← level_of_applied known.front start reached]
  exact bounds.paranoia

end

end Draft

/-- Behind options that could be applied, the option that fails for want of a level is the first one
that leaves the levels. -/
theorem apply_eq_noSuchLevel_iff_leavesLevels {env : Environment} {front : List Occurrence}
    {o : Occurrence} {d middle : Draft} (known : FromTable (front ++ [o]))
    (start : d.settings.paranoia = 0) (sound : d.Sound)
    (reached : d.applyHistory env front = .ok middle) :
    o.apply env middle = .error noSuchLevel ↔ LeavesLevels front o := by
  have level := Draft.level_of_applied known.front start reached
  have before := Draft.isParanoiaLevel_of_applied known.front start sound reached
  have moved := paranoiaLevel_concat known
  rw [Occurrence.apply, Draft.apply_eq_noSuchLevel_iff, level]
  constructor
  · rintro ⟨delta, step, outside⟩
    rw [step] at moved
    refine ⟨?_, before, moved ▸ outside⟩
    -- An option of the table that goes neither up nor down would stay at the level in front of it.
    by_contra still
    rw [not_or] at still
    have none := paranoiaStep_known (known o (by simp))
    rw [if_neg still.1, if_neg still.2, step] at none
    rw [show delta = 0 from none, Int.add_zero] at outside
    exact outside (before front (List.prefix_refl front))
  · intro leaves
    have outside := leaves.behind
    rcases leaves.moves with up | down
    · rw [moved, up] at outside
      exact ⟨1, up, outside⟩
    · rw [moved, down] at outside
      exact ⟨-1, down, outside⟩

def leavingArguments : List String := ["-ppp", "-vp", "--less-paranoid", "-P"]

def ladderArguments : List String := ["-ppPa", "sha256", "-P", "--paranoid", "-P"]

end ScanSetup
