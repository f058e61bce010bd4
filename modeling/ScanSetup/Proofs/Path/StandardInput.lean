import ScanSetup.Proofs.Path.Collection
import ScanSetup.Proofs.Text.Blank

set_option autoImplicit false

namespace ScanSetup

open Text

namespace PathList

def lineEnds : List String := ["\n", "\r\n"]

/-- The text lists these paths in order, one a line. Lines in between may be blank, and the last
line need not be ended. -/
inductive Lists : List String → String → Prop
  | nothing : Lists [] ""
  | blank {paths : List String} {ending text : String} (known : ending ∈ lineEnds)
      (rest : Lists paths text) : Lists paths (ending ++ text)
  | path {paths : List String} {ending text : String} (path : String) (known : ending ∈ lineEnds)
      (rest : Lists paths text) : Lists (path :: paths) (path ++ ending ++ text)
  | last (path : String) : Lists [path] path

/-- A path that a line can hold, and that is no argument with a meaning of its own. -/
structure Listable (path : String) : Prop where
  nonempty : path ≠ ""
  notMark : path ≠ stdinMark
  notToggle : path ≠ preferredToggle
  unbroken : '\n' ∉ path.toList
  noReturn : '\r' ∉ path.toList.getLast?

/-! ### The lines of standard input -/

section

variable {path ending text : String} {paths : List String}

theorem lineEnd_eq (known : ending ∈ lineEnds) :
    ∃ returns, ending.toList = returns ++ ['\n'] ∧ ∀ c ∈ returns, c = '\r' := by
  simp only [lineEnds, List.mem_cons, List.not_mem_nil, or_false] at known
  rcases known with rfl | rfl
  · exact ⟨[], rfl, by simp⟩
  · exact ⟨['\r'], rfl, by simp⟩

theorem stripped_path (returns : List Char) (unbroken : '\n' ∉ path.toList)
    (noReturn : '\r' ∉ path.toList.getLast?) (all : ∀ c ∈ returns, c = '\r') :
    dropTrailing (fun c => c == '\r' || c == '\n') (path.toList ++ returns) = path.toList := by
  apply dropTrailing_append
  · intro c last
    have other : c ≠ '\r' := fun same => noReturn (same ▸ last)
    have inside : c ≠ '\n' := fun same => unbroken (same ▸ List.mem_of_mem_getLast? last)
    simp [other, inside]
  · intro c member
    simp [all c member]

/-- A line names the path that it holds, if that is not empty. -/
theorem stdinPaths_line (known : ending ∈ lineEnds) (unbroken : '\n' ∉ path.toList)
    (noReturn : '\r' ∉ path.toList.getLast?) :
    stdinPaths (path ++ ending ++ text) =
      (if path = "" then [] else [path]) ++ stdinPaths text := by
  obtain ⟨returns, spelled, all⟩ := lineEnd_eq known
  have row : '\n' ∉ path.toList ++ returns := by
    rw [List.mem_append, not_or]
    exact ⟨unbroken, fun member => absurd (all _ member) (by decide)⟩
  have divided : (path ++ ending ++ text).toList =
      (path.toList ++ returns) ++ '\n' :: text.toList := by
    simp [spelled]
  simp only [stdinPaths, divided, lines_append row, List.map_cons,
    stripped_path returns unbroken noReturn all]
  by_cases empty : path = ""
  · simp [empty]
  · simp [empty]

theorem stdinPaths_last (listable : Listable path) : stdinPaths path = [path] := by
  have some : path.toList ≠ [] := by simpa using listable.nonempty
  have stripped := stripped_path [] listable.unbroken listable.noReturn (by simp)
  rw [List.append_nil] at stripped
  simp [stdinPaths, lines_of_not_mem listable.unbroken some, stripped, listable.nonempty]

theorem stdinPaths_of_lists (lists : Lists paths text) (listable : ∀ path ∈ paths, Listable path) :
    stdinPaths text = paths := by
  induction lists with
  | nothing => rfl
  | @blank paths ending text known rest ih =>
    -- A blank line is one that holds the empty path.
    have line : stdinPaths ("" ++ ending ++ text) = stdinPaths text :=
      stdinPaths_line known (by simp) (by simp)
    rw [String.empty_append] at line
    rw [line, ih listable]
  | path path known rest ih =>
    obtain ⟨here, others⟩ := List.forall_mem_cons.mp listable
    rw [stdinPaths_line known here.unbroken here.noReturn, ih others, if_neg here.nonempty]
    rfl
  | last path => exact stdinPaths_last (listable path List.mem_cons_self)

end

/-! ### The paths of arguments -/

section

variable (access : String → Except AccessFault String) (isPreferred : Bool) (list : PathList)

/-- Arguments without a `-` leave standard input to those behind them. -/
theorem addArguments_append {front : List String} (unread : stdinMark ∉ front)
    (waiting back : List String) :
    addArguments access isPreferred waiting list (front ++ back) =
      addArguments access (addArguments access isPreferred waiting list front).2 waiting
        (addArguments access isPreferred waiting list front).1 back := by
  induction front generalizing isPreferred list with
  | nil => rfl
  | cons argument rest ih =>
    have other : argument ≠ stdinMark := fun same => unread (by simp [same])
    have later : stdinMark ∉ rest := fun member => unread (by simp [member])
    simp only [List.cons_append, addArguments, beq_iff_eq, other, ↓reduceIte, ih _ _ later]
    split <;> rfl

/-- Arguments without a `-` do not ask what is on standard input. -/
theorem addArguments_unread {arguments : List String} (unread : stdinMark ∉ arguments)
    (waiting others : List String) :
    addArguments access isPreferred waiting list arguments =
      addArguments access isPreferred others list arguments := by
  induction arguments generalizing isPreferred list with
  | nil => rfl
  | cons argument rest ih =>
    have other : argument ≠ stdinMark := fun same => unread (by simp [same])
    have later : stdinMark ∉ rest := fun member => unread (by simp [member])
    simp only [addArguments, beq_iff_eq, other, ↓reduceIte, ih _ _ later]

variable {paths : List String}

theorem addArguments_paths (listable : ∀ path ∈ paths, Listable path) (waiting : List String) :
    addArguments access isPreferred waiting list paths =
      (paths.foldl (add access isPreferred) list, isPreferred) := by
  induction paths generalizing list with
  | nil => rfl
  | cons path rest ih =>
    obtain ⟨here, others⟩ := List.forall_mem_cons.mp listable
    simp only [addArguments, beq_iff_eq, here.notToggle, here.notMark, ↓reduceIte, ih _ others,
      List.foldl_cons]

/-- A `-` that finds an accessible path leaves no notice of its own. -/
theorem addAll_of_accessible (found : ∃ path ∈ paths, notice? access path = none) :
    list.addAll access isPreferred paths = paths.foldl (add access isPreferred) list := by
  have some : ¬ ∀ path ∈ paths, (notice? access path).isSome = true := by
    simpa [Option.isNone_iff_eq_none] using found
  rw [addAll_eq_plus, foldl_add_eq_plus, stdinNotices, if_neg some, List.append_nil]

theorem foldl_add_entries (found : ∃ path ∈ paths, notice? access path = none) :
    (paths.foldl (add access isPreferred) list).entries ≠ [] := by
  obtain ⟨path, member, quiet⟩ := found
  rw [foldl_add_eq_plus]
  intro empty
  have none := List.filterMap_eq_nil_iff.mp (List.append_eq_nil_iff.mp empty).2 path member
  rw [listed?_eq_none_iff, quiet] at none
  cases none

theorem addArguments_entries (waiting arguments : List String) :
    ∃ more, (addArguments access isPreferred waiting list arguments).1.entries =
      list.entries ++ more := by
  induction arguments generalizing isPreferred list waiting with
  | nil => exact ⟨[], (List.append_nil _).symm⟩
  | cons argument rest ih =>
    unfold addArguments
    split
    · exact ih _ _ _
    · split
      · obtain ⟨more, same⟩ := ih isPreferred (list.addAll access isPreferred waiting) []
        rw [same, addAll_eq_plus]
        exact ⟨_, List.append_assoc ..⟩
      · obtain ⟨more, same⟩ := ih isPreferred (list.add access isPreferred argument) waiting
        rw [same, add_eq_plus]
        exact ⟨_, List.append_assoc ..⟩

/-- With an entry among those of the arguments there is no need for a fallback. -/
theorem collect_of_entries {stdin : String} {arguments : List String} (fallback : String)
    (some : (addArguments access false (stdinPaths stdin) empty arguments).1.entries ≠ []) :
    collect access stdin fallback arguments =
      .ok (addArguments access false (stdinPaths stdin) empty arguments).1 := by
  have named : (!(addArguments access false (stdinPaths stdin) empty
      arguments).1.entries.isEmpty) = true := by simpa using some
  unfold collect
  dsimp only
  rw [if_pos named]

end

/-- Paths that standard input lists, one of them accessible, are collected like arguments in the
place of the `-`: with the same entries, the same notices, and the same word about failures. What is
on standard input does not matter to the arguments. -/
theorem collect_standardInput (access : String → Except AccessFault String)
    (fallback other : String) {front back paths : List String} {stdin : String}
    (before : stdinMark ∉ front) (behind : stdinMark ∉ back)
    (listable : ∀ path ∈ paths, Listable path)
    (accessible : ∃ path ∈ paths, ∃ canonical, access path = .ok canonical)
    (lists : Lists paths stdin) :
    ∃ list, collect access stdin fallback (front ++ [stdinMark] ++ back) = .ok list ∧
      collect access other fallback (front ++ paths ++ back) = .ok list := by
  have read : stdinPaths stdin = paths := stdinPaths_of_lists lists listable
  obtain ⟨path, member, canonical, found⟩ := accessible
  have listed : ∃ path ∈ paths, notice? access path = none :=
    ⟨path, member, by rw [notice?, found]⟩
  have apart : stdinMark ≠ preferredToggle := by decide
  have unlisted : stdinMark ∉ front ++ paths := by
    rw [List.mem_append, not_or]
    exact ⟨before, fun mark => (listable _ mark).notMark rfl⟩
  -- Both runs add the paths to the list of the arguments in front, and then those behind.
  let reached := addArguments access false paths empty front
  let added := paths.foldl (add access reached.2) reached.1
  have marked : addArguments access false (stdinPaths stdin) empty (front ++ [stdinMark] ++ back) =
      addArguments access reached.2 [] added back := by
    rw [read, List.append_assoc, addArguments_append access false empty before]
    simp only [List.singleton_append, addArguments, beq_iff_eq, apart, ↓reduceIte]
    rw [addAll_of_accessible access _ _ listed]
  have named : addArguments access false (stdinPaths other) empty (front ++ paths ++ back) =
      addArguments access reached.2 [] added back := by
    rw [addArguments_append access false empty unlisted,
      addArguments_append access false empty before,
      addArguments_unread access false empty before _ paths,
      addArguments_paths access _ _ listable, addArguments_unread access _ _ behind _ []]
  have some : (addArguments access reached.2 [] added back).1.entries ≠ [] := by
    obtain ⟨more, grown⟩ := addArguments_entries access reached.2 added [] back
    simp [grown, added, foldl_add_entries access _ _ listed]
  refine ⟨(addArguments access reached.2 [] added back).1, ?_, ?_⟩
  · rw [← marked] at some ⊢
    exact collect_of_entries access fallback some
  · rw [← named] at some ⊢
    exact collect_of_entries access fallback some

def listedText : String := "\r\n" ++ ("a b" ++ "\r\n" ++ ("gone" ++ "\n" ++ ("\n" ++ "/c")))

theorem listedText_lists : Lists ["a b", "gone", "/c"] listedText :=
  .blank (by decide) (.path "a b" (by decide) (.path "gone" (by decide)
    (.blank (by decide) (.last "/c"))))

def accessUnlessGone (path : String) : Except AccessFault String :=
  if path = "gone" then .error .missing else .ok path

theorem collect_standardInput_listedText :
    Lists ["a b", "gone", "/c"] listedText ∧
      collect accessUnlessGone listedText "." (["//", "gone"] ++ [stdinMark] ++ ["//", "d"]) =
        .ok ⟨[⟨"a b", true⟩, ⟨"/c", true⟩, ⟨"d", false⟩],
          [inaccessibleNotice "gone" .missing, inaccessibleNotice "gone" .missing], true⟩ := by
  have listable : ∀ path ∈ ["a b", "gone", "/c"], Listable path := by
    intro path member
    simp only [List.mem_cons, List.not_mem_nil, or_false] at member
    rcases member with rfl | rfl | rfl
    all_goals exact ⟨by decide, by decide, by decide, by decide, by decide⟩
  obtain ⟨list, read, named⟩ := collect_standardInput accessUnlessGone "." ""
    (show stdinMark ∉ ["//", "gone"] by decide) (show stdinMark ∉ ["//", "d"] by decide) listable
    ⟨"/c", by decide, "/c", rfl⟩ listedText_lists
  refine ⟨listedText_lists, ?_⟩
  rw [read, ← named]
  rfl

end PathList

end ScanSetup
