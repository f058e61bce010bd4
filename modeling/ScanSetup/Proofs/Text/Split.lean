import ScanSetup.Text.Split

set_option autoImplicit false

namespace ScanSetup.Text

variable {sep : Char} {cs before after : List Char}

theorem cut_of_not_mem (absent : sep ∉ cs) : cut sep cs = (cs, none) := by
  induction cs with
  | nil => rfl
  | cons c rest ih =>
    have different : c ≠ sep := fun same => absent (by simp [same])
    have tail : sep ∉ rest := fun member => absent (by simp [member])
    simp only [cut, beq_iff_eq, different, ↓reduceIte, ih tail]

theorem cut_append (absent : sep ∉ before) :
    cut sep (before ++ sep :: after) = (before, some after) := by
  induction before with
  | nil => simp [cut]
  | cons c rest ih =>
    have different : c ≠ sep := fun same => absent (by simp [same])
    have tail : sep ∉ rest := fun member => absent (by simp [member])
    simp only [List.cons_append, cut, beq_iff_eq, different, ↓reduceIte, ih tail]

theorem not_mem_cut (sep : Char) (cs : List Char) : sep ∉ (cut sep cs).1 := by
  induction cs with
  | nil => simp [cut]
  | cons c rest ih =>
    by_cases same : c = sep
    · simp [cut, same]
    · simp only [cut, beq_iff_eq, same, ↓reduceIte, List.mem_cons, not_or]
      exact ⟨fun equal => same equal.symm, ih⟩

theorem join_cut (sep : Char) (cs : List Char) :
    (cut sep cs).1 ++ ((cut sep cs).2.map (sep :: ·)).getD [] = cs := by
  induction cs with
  | nil => rfl
  | cons c rest ih =>
    by_cases same : c = sep
    · simp [cut, same]
    · simp only [cut, beq_iff_eq, same, ↓reduceIte, List.cons_append, ih]

theorem pieces_eq_splitOn (sep : Char) (cs : List Char) : pieces sep cs = cs.splitOn sep := by
  induction cs with
  | nil => rfl
  | cons c rest ih =>
    rw [pieces, ih, List.splitOn_cons_eq_if_modifyHead]
    cases divided : rest.splitOn sep with
    | nil => exact absurd divided (List.splitOn_ne_nil sep rest)
    | cons piece others => rfl

theorem join_pieces (sep : Char) (cs : List Char) : [sep].intercalate (pieces sep cs) = cs := by
  rw [pieces_eq_splitOn, List.intercalate_splitOn]

section

variable {α : Type} {a : α} {between part : List α} {parts : List (List α)}

theorem mem_intercalate (member : a ∈ between.intercalate parts) :
    a ∈ between ∨ ∃ part ∈ parts, a ∈ part := by
  induction parts with
  | nil => cases member
  | cons first rest ih =>
    cases rest with
    | nil =>
      rw [List.intercalate_singleton] at member
      exact .inr ⟨first, by simp, member⟩
    | cons second others =>
      rw [List.intercalate_cons_cons, List.mem_append, List.mem_append] at member
      rcases member with (here | separator) | later
      · exact .inr ⟨first, by simp, here⟩
      · exact .inl separator
      · rcases ih later with separator | ⟨part, own, inner⟩
        · exact .inl separator
        · exact .inr ⟨part, List.mem_cons_of_mem _ own, inner⟩

theorem mem_intercalate_of_mem (own : part ∈ parts) (inner : a ∈ part) :
    a ∈ between.intercalate parts := by
  induction parts with
  | nil => cases own
  | cons first rest ih =>
    cases rest with
    | nil =>
      rw [List.mem_singleton] at own
      rwa [List.intercalate_singleton, ← own]
    | cons second others =>
      rw [List.intercalate_cons_cons, List.mem_append, List.mem_append]
      rcases List.mem_cons.mp own with rfl | later
      · exact .inl (.inl inner)
      · exact .inr (ih later)

end

theorem mem_of_mem_pieces {c : Char} {piece : List Char} (own : piece ∈ pieces sep cs)
    (member : c ∈ piece) : c ∈ cs := by
  rw [← join_pieces sep cs]
  exact mem_intercalate_of_mem own member

theorem not_mem_of_mem_pieces {piece : List Char} (own : piece ∈ pieces sep cs) : sep ∉ piece := by
  induction cs generalizing piece with
  | nil =>
    rw [pieces, List.mem_singleton] at own
    simp [own]
  | cons c rest ih =>
    rw [pieces_eq_splitOn, List.splitOn_cons_eq_if_modifyHead, ← pieces_eq_splitOn] at own
    split at own
    · rcases List.mem_cons.mp own with rfl | later
      · exact List.not_mem_nil
      · exact ih later
    · rename_i other
      cases divided : pieces sep rest with
      | nil => simp [divided] at own
      | cons first others =>
        rw [divided, List.modifyHead_cons] at own
        rw [divided] at ih
        rcases List.mem_cons.mp own with rfl | later
        · rw [List.mem_cons, not_or]
          exact ⟨fun same => other (by simp [same]), ih List.mem_cons_self⟩
        · exact ih (List.mem_cons_of_mem _ later)

variable {row rest : List Char}

theorem lines_append (absent : '\n' ∉ row) : lines (row ++ '\n' :: rest) = row :: lines rest := by
  have divided : pieces '\n' (row ++ '\n' :: rest) = row :: pieces '\n' rest := by
    rw [pieces_eq_splitOn, List.splitOn_append_cons_self_of_not_mem absent, pieces_eq_splitOn]
  unfold lines
  rw [divided, List.reverse_cons]
  cases backwards : (pieces '\n' rest).reverse with
  | nil =>
    rw [List.reverse_eq_nil_iff, pieces_eq_splitOn] at backwards
    exact absurd backwards (List.splitOn_ne_nil '\n' rest)
  | cons last others => cases last <;> simp

/-- A last line need not be ended. -/
theorem lines_of_not_mem (absent : '\n' ∉ row) (some : row ≠ []) : lines row = [row] := by
  unfold lines
  rw [pieces_eq_splitOn, List.splitOn_eq_singleton absent]
  cases row with
  | nil => exact absurd rfl some
  | cons c rest => rfl

end ScanSetup.Text
