import ScanSetup.Disk
import ScanSetup.Proofs.Text.Split

set_option autoImplicit false

namespace ScanSetup

open Text

/-- The character that no path name may hold. -/
def nul : Char := '\x00'

/-- A tidy path has no NUL character that the path has not. -/
theorem nul_not_mem_tidyPath {path : String} (clean : nul ∉ path.toList) :
    nul ∉ (tidyPath path).toList := by
  intro member
  have leading : nul ∉ leadingSlashes path.toList := by
    unfold leadingSlashes
    split <;> decide
  have joined : nul ∉ ['/'].intercalate
      ((pieces '/' path.toList).filter fun part => part != [] && part != ['.']) := by
    intro inside
    rcases mem_intercalate inside with slash | ⟨part, own, inner⟩
    · exact absurd slash (by decide)
    · exact clean (mem_of_mem_pieces (List.mem_filter.mp own).1 inner)
  unfold tidyPath at member
  dsimp only at member
  split at member
  · exact absurd member (by decide)
  · rename_i tidy
    rw [String.toList_ofList] at member
    exact (List.mem_append.mp member).elim leading joined

namespace Disk

/-- Following a path meets no NUL character, since names were checked before. -/
theorem walk_ne_embeddedNul (disk : Disk) (links : Nat) (here : Place) (node : Node)
    (rest : List (List Char)) : disk.walk links here node rest ≠ .error .embeddedNul := by
  fun_induction disk.walk links here node rest <;> simp_all

theorem lookup_ne_embeddedNul (disk : Disk) (here : Place) {path : String}
    (clean : nul ∉ path.toList) : disk.lookup here path ≠ .error .embeddedNul := by
  have absent : path.toList.contains '\x00' = false := by
    simpa [nul] using clean
  intro rejected
  unfold lookup at rejected
  split at rejected
  · rename_i fault failed
    cases rejected
    unfold resolve at failed
    rw [absent] at failed
    simp only [Bool.false_eq_true, ↓reduceIte] at failed
    split at failed
    · cases failed
    · split at failed
      · cases failed
      · exact walk_ne_embeddedNul disk _ _ _ _ failed
  · cases rejected

end Disk

end ScanSetup
