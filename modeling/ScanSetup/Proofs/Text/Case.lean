import ScanSetup.Proofs.Text.Digit
import ScanSetup.Text.Case

set_option autoImplicit false

namespace ScanSetup.Text

/-- No code point from `first` to `last` has a lower case mapping. -/
def unmapped (first last : Nat) : Bool :=
  (lowerSpecial.all fun entry => entry.1 < first || last < entry.1) &&
    lowerRuns.all fun run => run.last < first || last < run.first

/-- The character has no lower case mapping. -/
def Caseless (c : Char) : Prop := unmapped c.toNat c.toNat = true

variable {c : Char}

theorem Caseless.of_range {first last : Nat} (all : unmapped first last = true)
    (least : first ≤ c.toNat) (most : c.toNat ≤ last) : Caseless c := by
  simp only [Caseless, unmapped, Bool.and_eq_true, List.all_eq_true, Bool.or_eq_true,
    decide_eq_true_eq] at all ⊢
  refine ⟨fun entry member => ?_, fun run member => ?_⟩
  · have apart := all.1 entry member
    omega
  · have apart := all.2 run member
    omega

theorem Caseless.mapCase_eq (kept : Caseless c) : mapCase lowerSpecial lowerRuns c = [c] := by
  simp only [Caseless, unmapped, Bool.and_eq_true, List.all_eq_true, Bool.or_eq_true,
    decide_eq_true_eq] at kept
  have special : lowerSpecial.lookup c.toNat = none := by
    rw [List.lookup_eq_none_iff]
    intro entry member
    have apart := kept.1 entry member
    simp only [bne_iff_ne]
    omega
  have uncovered : lowerRuns.find? (·.covers c.toNat) = none := by
    rw [List.find?_eq_none]
    intro run member covered
    have apart := kept.2 run member
    simp only [CaseRun.covers, Bool.and_eq_true, decide_eq_true_eq] at covered
    omega
  simp only [mapCase, special, uncovered]

theorem Caseless.mem_lowerFrom (kept : Caseless c) {cs : List Char} (member : c ∈ cs)
    (before : List Char) : c ∈ lowerFrom before cs := by
  have sigma : c ≠ 'Σ' := by
    rintro rfl
    exact absurd kept (by rw [Caseless]; decide +kernel)
  induction cs generalizing before with
  | nil => cases member
  | cons d rest ih =>
    rw [lowerFrom]
    refine List.mem_append.mpr ?_
    rcases List.mem_cons.mp member with rfl | later
    · simp [sigma, kept.mapCase_eq]
    · exact .inr (ih later (d :: before))

theorem Caseless.of_isDigit (digit : isDigit c = true) : Caseless c := by
  have kept : ∀ first ∈ zeros, unmapped first (first + 9) = true := by decide +kernel
  obtain ⟨first, member, value, small, code⟩ := isDigit_iff.mp digit
  exact .of_range (kept first member) (by omega) (by omega)

theorem Caseless.of_isBlank (blank : isBlank c = true) : Caseless c := by
  have kept : ∀ range ∈ blankRanges, unmapped range.1 range.2 = true := by decide +kernel
  obtain ⟨range, member, least, most⟩ := CodeRanges.exists_of_contains blank
  exact .of_range (kept range member) least most

theorem Caseless.point : Caseless '.' := by
  rw [Caseless]
  decide +kernel

end ScanSetup.Text
