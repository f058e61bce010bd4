import ScanSetup.Output
import ScanSetup.Proofs.Text.Split

set_option autoImplicit false

namespace ScanSetup

open Text

namespace Override

/-- An override as an option writes it: its formatter ends at the first colon, and its key at the
first equals sign. -/
structure WellFormed (item : Override) : Prop where
  formatter : ':' ∉ item.formatter.toList
  nonempty : item.key ≠ ""
  key : '=' ∉ item.key.toList

/-- The text spells an override: its formatter up to the first colon, its key up to the first equals
sign behind it, and its value; a text without a value stands for the default one. -/
def Spelled (item : Override) (pair : String) : Prop :=
  item.WellFormed ∧
    (pair = item.formatter ++ ":" ++ item.key ++ "=" ++ item.value ∨
      pair = item.formatter ++ ":" ++ item.key ∧ item.value = defaultValue)

variable {item : Override} {pair : String}

theorem parse_of_cut {formatter key : List Char} {value? : Option (List Char)} {rest : List Char}
    (outer : cut ':' pair.toList = (formatter, some rest)) (inner : cut '=' rest = (key, value?))
    (nonempty : key ≠ []) :
    Override.parse pair = .ok ⟨String.ofList formatter, String.ofList key,
      (value?.map String.ofList).getD defaultValue⟩ := by
  rw [Override.parse, outer]
  dsimp only
  rw [inner]
  cases key with
  | nil => exact absurd rfl nonempty
  | cons c key => rfl

theorem parse_of_spelled (spelled : item.Spelled pair) : Override.parse pair = .ok item := by
  obtain ⟨formed, written⟩ := spelled
  have nonempty : item.key.toList ≠ [] := by simpa using formed.nonempty
  rcases written with rfl | ⟨rfl, default⟩
  · have outer : cut ':' (item.formatter ++ ":" ++ item.key ++ "=" ++ item.value).toList =
        (item.formatter.toList, some (item.key.toList ++ '=' :: item.value.toList)) := by
      rw [← cut_append formed.formatter]
      simp
    rw [parse_of_cut outer (cut_append formed.key) nonempty]
    simp
  · have outer : cut ':' (item.formatter ++ ":" ++ item.key).toList =
        (item.formatter.toList, some item.key.toList) := by
      rw [← cut_append formed.formatter]
      simp
    rw [parse_of_cut outer (cut_of_not_mem formed.key) nonempty]
    simp [← default]

theorem spelled_of_parse (read : Override.parse pair = .ok item) : item.Spelled pair := by
  have outer := join_cut ':' pair.toList
  have noColon := not_mem_cut ':' pair.toList
  unfold Override.parse at read
  split at read
  · cases read
  · rename_i formatter rest first
    rw [first] at outer noColon
    have inner := join_cut '=' rest
    have noEquals := not_mem_cut '=' rest
    split at read
    · cases read
    · rename_i key value? nonempty second
      rw [second] at inner noEquals
      cases read
      refine ⟨⟨by simpa using noColon, by simpa using nonempty, by simpa using noEquals⟩, ?_⟩
      rw [← String.toList_inj, ← String.toList_inj, ← outer, ← inner]
      cases value? with
      | none => exact Or.inr (by simp)
      | some value => exact Or.inl (by simp)

theorem parse_eq_ok_iff : Override.parse pair = .ok item ↔ item.Spelled pair :=
  ⟨spelled_of_parse, parse_of_spelled⟩

end Override

end ScanSetup
