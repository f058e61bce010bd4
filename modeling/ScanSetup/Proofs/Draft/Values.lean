import ScanSetup.Proofs.Draft.Steps
import ScanSetup.Proofs.Number.Binary64
import ScanSetup.Proofs.Output.Spelling

set_option autoImplicit false

namespace ScanSetup

open Text Number

namespace Clamp

theorem checkFactor_eq_ok {factor ratio : Binary64} (success : checkFactor factor = .ok ratio) :
    ratio.isRatio = true := by
  unfold checkFactor at success
  split at success
  · rename_i inside
    rw [← Except.ok.inj success]
    exact inside
  · cases success

theorem parseFactor_isRatio {spec : String} {ratio : Binary64}
    (success : parseFactor spec = .ok ratio) : ratio.isRatio = true := by
  unfold parseFactor at success
  split at success
  · cases success
  · split at success
    · exact checkFactor_eq_ok success
    · exact checkFactor_eq_ok success
    · cases success

theorem parse_isValid {spec : String} {clamp : Clamp} (success : Clamp.parse spec = .ok clamp) :
    clamp.isValid = true := by
  unfold Clamp.parse at success
  split at success
  · split at success
    · rename_i read
      cases success
      exact parseFactor_isRatio read
    · cases success
  · split at success
    · cases success
      simp only [isValid, decide_eq_true_eq]
      omega
    · cases success
    · cases success

end Clamp

theorem Options.clampValue_isValid {value : String} {clamp : Clamp}
    (success : clampValue value = .ok clamp) : clamp.isValid = true :=
  Clamp.parse_isValid (clampValue_eq_ok.mp success)

theorem Size.parseRange_ordered {spec : String} {least most : Nat}
    (success : Size.parseRange spec = .ok (least, most)) : least ≤ most := by
  unfold Size.parseRange at success
  dsimp only at success
  split at success
  · cases success
  · split at success
    · cases success
    · split at success
      · cases success
      · rename_i ordered
        cases success
        omega

theorem Draft.civilStamp_wellFormed : Draft.civilStamp.WellFormed :=
  ⟨by decide, by decide, by decide⟩

/-- The positive instant that a text stands for, whatever the time is. -/
def Time.readInstant (spec : String) : Except Time.StampFault Int :=
  match if Time.isPlain spec then Time.parsePlain spec else .ok (Time.parseCivil spec) with
  | .error fault => .error (.plain fault)
  | .ok instant => if instant ≤ 0 then .error (.unparsable spec) else .ok instant

/-- The reference time decides nothing about a stamp but whether it lies in the future. -/
theorem Time.parseStamp_eq (now : Binary64) (spec : String) :
    Time.parseStamp now spec =
      (Time.readInstant spec).map fun instant =>
        ⟨instant, Time.isPlain spec, now.ltInt instant⟩ := by
  unfold Time.parseStamp Time.readInstant
  dsimp only
  cases (if Time.isPlain spec then Time.parsePlain spec else .ok (Time.parseCivil spec)) with
  | error fault => rfl
  | ok instant =>
    by_cases negative : instant ≤ 0
    · simp only [negative, ↓reduceIte, Except.map]
    · simp only [negative, ↓reduceIte, Except.map]

theorem Time.readInstant_of_parseStamp {now : Binary64} {spec : String} {stamp : Time.Stamp}
    (success : Time.parseStamp now spec = .ok stamp) :
    Time.readInstant spec = .ok stamp.instant := by
  rw [Time.parseStamp_eq] at success
  obtain ⟨instant, read, rfl⟩ := map_eq_ok_iff.mp success
  exact read

theorem Time.parseStamp_positive {now : Binary64} {spec : String} {stamp : Time.Stamp}
    (success : Time.parseStamp now spec = .ok stamp) : 0 < stamp.instant := by
  have read := Time.readInstant_of_parseStamp success
  unfold Time.readInstant at read
  split at read
  · cases read
  · split at read
    · cases read
    · rename_i positive
      cases read
      omega

theorem Time.parseStamp_clock {now : Binary64} (other : Binary64) {spec : String}
    {stamp : Time.Stamp}
    (success : Time.parseStamp now spec = .ok stamp) :
    ∃ moved, Time.parseStamp other spec = .ok moved := by
  rw [Time.parseStamp_eq, Time.readInstant_of_parseStamp success]
  exact ⟨_, rfl⟩

theorem paranoiaEffect?_bounds {level : Int} {effect : ParanoiaEffect}
    (found : paranoiaEffect? level = some effect) : -2 ≤ level ∧ level ≤ 3 := by
  unfold paranoiaEffect? at found
  by_cases inside : -2 ≤ level ∧ level ≤ 3
  · exact inside
  · simp only [show level ≠ -2 by omega, show level ≠ -1 by omega, show level ≠ 0 by omega,
      show level ≠ 1 by omega, show level ≠ 2 by omega, show level ≠ 3 by omega,
      ↓reduceIte] at found
    cases found

theorem stampFormatter_known : isFormatter stampFormatter = true := by decide

theorem Preset.sinks_known (preset : Preset) :
    ∀ sink ∈ preset.sinks, isFormatter sink.formatter = true := by
  cases preset <;> decide

end ScanSetup
