import ScanSetup.Configuration.Fields
import ScanSetup.Proofs.Text.Split
import ScanSetup.Terminal.Message

set_option autoImplicit false

namespace ScanSetup

open Number Text

/-- The character that starts an escape sequence does not occur. -/
def Unescaped (s : String) : Prop := '\x1b' ∉ s.toList

instance (s : String) : Decidable (Unescaped s) := inferInstanceAs (Decidable (_ ∉ _))

namespace Unescaped

theorem append {a b : String} (first : Unescaped a) (second : Unescaped b) :
    Unescaped (a ++ b) := by
  rw [Unescaped, String.toList_append, List.mem_append, not_or]
  exact ⟨first, second⟩

theorem ofList {cs : List Char} (absent : '\x1b' ∉ cs) : Unescaped (String.ofList cs) := by
  rwa [Unescaped, String.toList_ofList]

theorem replicate {c : Char} (other : c ≠ '\x1b') (n : Nat) :
    Unescaped (String.ofList (List.replicate n c)) :=
  ofList fun member => other (List.eq_of_mem_replicate member).symm

theorem intercalate {separator : String} {parts : List String} (between : Unescaped separator)
    (each : ∀ part ∈ parts, Unescaped part) : Unescaped (separator.intercalate parts) := by
  intro member
  rw [String.toList_intercalate] at member
  rcases mem_intercalate member with here | ⟨part, own, inside⟩
  · exact between here
  · obtain ⟨text, given, rfl⟩ := List.mem_map.mp own
    exact each text given inside

theorem nat (n : Nat) : Unescaped (toString n) := by
  intro member
  have digit := Nat.isDigit_of_mem_toDigits (by decide) (by decide) (Nat.toList_repr ▸ member)
  exact absurd digit (by decide)

theorem int (n : Int) : Unescaped (toString n) := by
  rw [Int.toString_eq_repr, Int.repr_eq_if]
  split
  · exact nat _
  · exact append (by decide) (nat _)

end Unescaped

theorem Number.Binary64.positional_unescaped {digits : String} (plain : Unescaped digits)
    (power : Int) : Unescaped (positional digits power) := by
  have zeros := Unescaped.replicate (c := '0') (by decide)
  unfold positional
  split
  · exact (Unescaped.append (.append (by decide) (zeros _)) plain)
  · dsimp only
    split
    · exact .append (.append plain (zeros _)) (by decide)
    · refine .append (.append (.ofList fun member => plain (List.mem_of_mem_take member))
        (by decide)) (.ofList fun member => plain (List.mem_of_mem_drop member))

theorem Number.Binary64.scientific_unescaped (style : TextStyle) {digits : String}
    (plain : Unescaped digits) (power : Int) : Unescaped (scientific style digits power) := by
  have padded : Unescaped (padZeros style.exponentDigits (toString power.natAbs)) :=
    .append (.replicate (by decide) _) (.nat _)
  have sign : Unescaped (if power < 0 then "-" else "+") := by split <;> decide
  unfold scientific
  refine .append (.append (.append ?_ (by decide)) sign) padded
  unfold Unescaped at plain
  split
  · decide
  · rename_i c single
    rw [single] at plain
    simpa [Unescaped] using plain
  · rename_i c rest _ several
    rw [several] at plain
    simpa [Unescaped] using plain

theorem Number.Binary64.text_unescaped (x : Binary64) : Unescaped x.text := by
  cases x with
  | nan => decide
  | infinite negative => cases negative <;> decide
  | finite negative units =>
    have sign : Unescaped (if negative then "-" else "") := by cases negative <;> decide
    refine .append sign ?_
    unfold magnitudeText
    split
    · decide
    · dsimp only
      split
      · exact positional_unescaped (.nat _) _
      · exact scientific_unescaped _ (.nat _) _

namespace Value

theorem unicodeEscape_unescaped (n : Nat) : '\x1b' ∉ unicodeEscape n := by
  have digit (i : Nat) : '\x1b' ≠ Nat.digitChar i := (Nat.digitChar_ne '\x1b' (by decide)).symm
  simp [unicodeEscape, digit]

theorem escape_unescaped (c : Char) : '\x1b' ∉ escape c := by
  by_cases start : c = '\x1b'
  · -- The character itself is beyond printable ASCII, so it is written by its number.
    subst start
    decide
  · have other : '\x1b' ≠ c := Ne.symm start
    unfold escape
    repeat' split
    all_goals simp [other, unicodeEscape_unescaped]

theorem quote_unescaped (s : String) : Unescaped (quote s) := by
  refine .append (.append (by decide) (.ofList ?_)) (by decide)
  intro member
  obtain ⟨c, -, inside⟩ := List.mem_flatMap.mp member
  exact escape_unescaped c inside

theorem lineBreak_unescaped (depth : Nat) : Unescaped (lineBreak depth) :=
  .append (by decide) (.replicate (by decide) _)

theorem bracketed_unescaped {opening closing : String} (depth : Nat) {items : List String}
    (opened : Unescaped opening) (closed : Unescaped closing)
    (each : ∀ item ∈ items, Unescaped item) :
    Unescaped (bracketed opening closing depth items) := by
  have broken := lineBreak_unescaped (depth + 1)
  unfold bracketed
  split
  · exact opened.append closed
  · exact .append (.append (.append (opened.append broken)
      (.intercalate (.append (by decide) broken) each)) (lineBreak_unescaped depth)) closed

mutual

/-- No written form starts an escape sequence. -/
theorem render?_unescaped (depth : Nat) (value : Value) :
    ∀ text, render? depth value = some text → Unescaped text := by
  intro text written
  cases value with
  | null =>
    cases written
    decide
  | bool b =>
    cases written
    cases b <;> decide
  | integer n =>
    simp only [render?, integerText?] at written
    split at written
    · cases written
      exact .int n
    · cases written
  | real x =>
    cases written
    exact Binary64.text_unescaped x
  | text s =>
    cases written
    exact quote_unescaped s
  | list items =>
    rw [render?] at written
    obtain ⟨texts, shown, rfl⟩ := Option.map_eq_some_iff.mp written
    exact bracketed_unescaped depth (by decide) (by decide)
      (renderList?_unescaped (depth + 1) items texts shown)
  | record fields =>
    rw [render?] at written
    obtain ⟨texts, shown, rfl⟩ := Option.map_eq_some_iff.mp written
    refine bracketed_unescaped depth (by decide) (by decide) ?_
    intro item member
    obtain ⟨⟨name, field⟩, own, rfl⟩ := List.mem_map.mp member
    have sorted : (name, field) ∈ texts := (List.mergeSort_perm _ _).mem_iff.mp own
    exact .append (.append (quote_unescaped name) (by decide))
      (renderFields?_unescaped (depth + 1) fields texts shown _ sorted)

theorem renderList?_unescaped (depth : Nat) (items : List Value) :
    ∀ texts, renderList? depth items = some texts → ∀ text ∈ texts, Unescaped text := by
  intro texts written
  cases items with
  | nil =>
    cases written
    exact fun _ member => nomatch member
  | cons item rest =>
    simp only [renderList?] at written
    split at written
    · rename_i shown others first later
      cases written
      exact List.forall_mem_cons.mpr
        ⟨render?_unescaped depth item shown first, renderList?_unescaped depth rest others later⟩
    · cases written

theorem renderFields?_unescaped (depth : Nat) (fields : List (String × Value)) :
    ∀ texts, renderFields? depth fields = some texts → ∀ field ∈ texts, Unescaped field.2 := by
  intro texts written
  cases fields with
  | nil =>
    cases written
    exact fun _ member => nomatch member
  | cons field rest =>
    obtain ⟨name, item⟩ := field
    simp only [renderFields?] at written
    split at written
    · rename_i shown others first later
      cases written
      exact List.forall_mem_cons.mpr
        ⟨render?_unescaped depth item shown first, renderFields?_unescaped depth rest others later⟩
    · cases written

end

end Value

theorem Configuration.render_unescaped {config : Configuration} {text : String}
    (written : config.render = .ok text) : Unescaped text := by
  unfold Configuration.render at written
  split at written
  · rename_i shown rendered
    cases written
    exact Value.render?_unescaped 0 _ _ rendered
  · cases written

namespace Terminal

theorem skipSequence?_of_ne {c : Char} (other : c ≠ '\x1b') (rest : List Char) :
    skipSequence? (c :: rest) = none := by
  unfold skipSequence?
  split
  · rename_i same
    exact absurd (List.cons.inj same).1 other
  · rfl

theorem withoutSequencesFrom_of_unescaped {cs : List Char} (absent : '\x1b' ∉ cs) (fuel : Nat) :
    withoutSequencesFrom fuel cs = cs := by
  induction cs generalizing fuel with
  | nil => cases fuel <;> rfl
  | cons c rest ih =>
    cases fuel with
    | zero => rfl
    | succ fuel =>
      obtain ⟨other, tail⟩ := not_or.mp (mt List.mem_cons.mpr absent)
      rw [withoutSequencesFrom, skipSequence?_of_ne (Ne.symm other), ih tail]

theorem echo_of_unescaped {env : Environment} {text : String} (plain : Unescaped text) :
    echo env text = ⟨text ++ "\n", ""⟩ := by
  have kept : withoutSequences text = text := by
    rw [withoutSequences, withoutSequencesFrom_of_unescaped plain, String.ofList_toList]
  simp only [echo, kept, ite_self, onStream, Bool.false_eq_true, ↓reduceIte]

end Terminal

end ScanSetup
