import ScanSetup.PathList
import ScanSetup.Proofs.Text.Split
import Mathlib.Algebra.Ring.Parity
import Mathlib.Data.List.DropRight
import Mathlib.Data.List.Forall2
import Mathlib.Data.List.Infix

set_option autoImplicit false

namespace ScanSetup

open Text

namespace PathList

def listed? (access : String → Except AccessFault String) (isPreferred : Bool) (path : String) :
    Option PathEntry :=
  (access path).toOption.map fun canonical => ⟨canonical, isPreferred⟩

def notice? (access : String → Except AccessFault String) (path : String) : Option String :=
  match access path with
  | .ok _ => none
  | .error fault => some (inaccessibleNotice path fault)

/-- The notices of a `-` that reads these paths, with one more if none of them is accessible. -/
def stdinNotices (access : String → Except AccessFault String) (paths : List String) :
    List String :=
  paths.filterMap (notice? access) ++
    if ∀ path ∈ paths, (notice? access path).isSome then [emptyStdinNotice] else []

/-! ### What one argument adds -/

/-- The paths behind these arguments are preferred. -/
def prefers (front : List String) : Bool := decide (Odd (front.count preferredToggle))

/-- The paths that wait on standard input behind these arguments. -/
def waitingBehind (waiting front : List String) : List String :=
  if stdinMark ∈ front then [] else waiting

/-- The paths that an argument stands for. -/
def candidates (waiting front : List String) (argument : String) : List String :=
  if argument = preferredToggle then []
  else if argument = stdinMark then waitingBehind waiting front
  else [argument]

/-- The entries that an argument adds. -/
def entriesAt (access : String → Except AccessFault String) (waiting front : List String)
    (argument : String) : List PathEntry :=
  (candidates waiting front argument).filterMap (listed? access (prefers front))

/-- The notices that an argument leaves. -/
def noticesAt (access : String → Except AccessFault String) (waiting front : List String)
    (argument : String) : List String :=
  let paths := candidates waiting front argument
  if argument = stdinMark then stdinNotices access paths else paths.filterMap (notice? access)

/-- Each argument behind `front`, with all those in front of it. -/
def positions (front arguments : List String) : List (List String × String) :=
  (arguments.inits.map (front ++ ·)).zip arguments

def entriesBehind (access : String → Except AccessFault String) (waiting front : List String)
    (arguments : List String) : List PathEntry :=
  (positions front arguments).flatMap fun (front, argument) =>
    entriesAt access waiting front argument

def noticesBehind (access : String → Except AccessFault String) (waiting front : List String)
    (arguments : List String) : List String :=
  (positions front arguments).flatMap fun (front, argument) =>
    noticesAt access waiting front argument

/-- Adds entries and notices; a notice is a failure. -/
def plus (list : PathList) (entries : List PathEntry) (notices : List String) : PathList :=
  ⟨list.entries ++ entries, list.notices ++ notices, list.failed || !notices.isEmpty⟩

variable (access : String → Except AccessFault String) (isPreferred : Bool) (list : PathList)
  (waiting front : List String)

theorem plus_nil : list.plus [] [] = list := by
  simp [plus]

theorem plus_plus (entries more : List PathEntry) (notices others : List String) :
    (list.plus entries notices).plus more others =
      list.plus (entries ++ more) (notices ++ others) := by
  cases notices <;> simp [plus]

theorem failing_eq_plus (notice : String) : list.failing notice = list.plus [] [notice] := by
  simp [plus, failing]

theorem listed?_eq_none_iff (path : String) :
    listed? access isPreferred path = none ↔ (notice? access path).isSome = true := by
  unfold listed? notice?
  cases access path <;> simp [Except.toOption]

theorem add_eq_plus (path : String) :
    list.add access isPreferred path =
      list.plus (listed? access isPreferred path).toList (notice? access path).toList := by
  unfold add listed? notice?
  cases access path with
  | ok canonical => simp [plus, Except.toOption]
  | error fault => simp [failing_eq_plus, Except.toOption]

theorem foldl_add_eq_plus (paths : List String) :
    paths.foldl (add access isPreferred) list =
      list.plus (paths.filterMap (listed? access isPreferred))
        (paths.filterMap (notice? access)) := by
  induction paths generalizing list with
  | nil => exact (plus_nil list).symm
  | cons path rest ih =>
    rw [List.foldl_cons, ih, add_eq_plus, plus_plus]
    simp only [List.filterMap_eq_flatMap_toList, List.flatMap_cons]

/-- Standard input leaves one notice more if no path is accessible. -/
theorem addAll_eq_plus (paths : List String) :
    list.addAll access isPreferred paths =
      list.plus (paths.filterMap (listed? access isPreferred)) (stdinNotices access paths) := by
  have none : paths.filterMap (listed? access isPreferred) = [] ↔
      ∀ path ∈ paths, (notice? access path).isSome = true := by
    simp only [List.filterMap_eq_nil_iff, listed?_eq_none_iff]
  simp only [addAll, foldl_add_eq_plus, stdinNotices, ← none]
  split
  · rename_i same
    have empty : paths.filterMap (listed? access isPreferred) = [] := by simpa [plus] using same
    rw [if_pos empty, failing_eq_plus, plus_plus, List.append_nil]
  · rename_i more
    have some : paths.filterMap (listed? access isPreferred) ≠ [] := by simpa [plus] using more
    rw [if_neg some, List.append_nil]

/-! ### What all arguments add -/

theorem prefers_append_toggle : prefers (front ++ [preferredToggle]) = !prefers front := by
  simp only [prefers, List.count_append, List.count_singleton_self, Nat.odd_add_one, decide_not]

theorem prefers_append {argument : String} (other : argument ≠ preferredToggle) :
    prefers (front ++ [argument]) = prefers front := by
  simp [prefers, other]

theorem waitingBehind_append_mark : waitingBehind waiting (front ++ [stdinMark]) = [] := by
  simp [waitingBehind]

theorem waitingBehind_append {argument : String} (other : argument ≠ stdinMark) :
    waitingBehind waiting (front ++ [argument]) = waitingBehind waiting front := by
  simp [waitingBehind, other.symm]

theorem positions_cons (argument : String) (rest : List String) :
    positions front (argument :: rest) =
      (front, argument) :: positions (front ++ [argument]) rest := by
  simp [positions, Function.comp_def]

theorem entriesBehind_cons (argument : String) (rest : List String) :
    entriesBehind access waiting front (argument :: rest) =
      entriesAt access waiting front argument ++
        entriesBehind access waiting (front ++ [argument]) rest := by
  rw [entriesBehind, positions_cons, List.flatMap_cons]
  rfl

theorem noticesBehind_cons (argument : String) (rest : List String) :
    noticesBehind access waiting front (argument :: rest) =
      noticesAt access waiting front argument ++
        noticesBehind access waiting (front ++ [argument]) rest := by
  rw [noticesBehind, positions_cons, List.flatMap_cons]
  rfl

theorem addArguments_cons (argument : String) (rest : List String) :
    addArguments access (prefers front) (waitingBehind waiting front) list (argument :: rest) =
      addArguments access (prefers (front ++ [argument]))
        (waitingBehind waiting (front ++ [argument]))
        (list.plus (entriesAt access waiting front argument)
          (noticesAt access waiting front argument))
        rest := by
  have apart : preferredToggle ≠ stdinMark := by decide
  simp only [addArguments, beq_iff_eq]
  split
  · rename_i toggle
    subst toggle
    simp [prefers_append_toggle, waitingBehind_append waiting front apart, entriesAt, noticesAt,
      candidates, apart, plus_nil]
  · rename_i other
    split
    · rename_i mark
      subst mark
      simp [prefers_append front other, waitingBehind_append_mark, entriesAt, noticesAt, candidates,
        other, addAll_eq_plus]
    · rename_i path
      simp [prefers_append front other, waitingBehind_append waiting front path, entriesAt,
        noticesAt, candidates, other, path, add_eq_plus, List.filterMap_eq_flatMap_toList]

theorem addArguments_eq_plus (arguments : List String) :
    addArguments access (prefers front) (waitingBehind waiting front) list arguments =
      (list.plus (entriesBehind access waiting front arguments)
        (noticesBehind access waiting front arguments), prefers (front ++ arguments)) := by
  induction arguments generalizing front list with
  | nil => simp [addArguments, entriesBehind, noticesBehind, positions, plus_nil]
  | cons argument rest ih =>
    rw [addArguments_cons, ih, plus_plus, entriesBehind_cons, noticesBehind_cons, List.append_assoc,
      List.singleton_append]

/-- A toggle adds nothing. Any other argument adds an entry or leaves a notice. -/
theorem adds_nothing_iff (argument : String) :
    entriesAt access waiting front argument = [] ∧ noticesAt access waiting front argument = [] ↔
      argument = preferredToggle := by
  by_cases toggle : argument = preferredToggle
  · have apart : preferredToggle ≠ stdinMark := by decide
    simp [entriesAt, noticesAt, candidates, toggle, apart]
  · refine iff_of_false ?_ toggle
    rintro ⟨no_entry, no_notice⟩
    simp only [entriesAt, List.filterMap_eq_nil_iff, listed?_eq_none_iff] at no_entry
    unfold noticesAt at no_notice
    split at no_notice
    · rw [stdinNotices, if_pos no_entry] at no_notice
      simp at no_notice
    · rename_i path
      simp only [candidates, toggle, path, ↓reduceIte, List.mem_singleton, forall_eq,
        List.filterMap_eq_nil_iff] at no_entry no_notice
      rw [no_notice] at no_entry
      cases no_entry

theorem addsBehind_nothing_iff (arguments : List String) :
    entriesBehind access waiting front arguments = [] ∧
        noticesBehind access waiting front arguments = [] ↔
      ∀ argument ∈ arguments, argument = preferredToggle := by
  induction arguments generalizing front with
  | nil => simp [entriesBehind, noticesBehind, positions]
  | cons argument rest ih =>
    rw [entriesBehind_cons, noticesBehind_cons, List.append_eq_nil_iff, List.append_eq_nil_iff,
      List.forall_mem_cons, ← adds_nothing_iff access waiting front, ← ih (front ++ [argument])]
    exact and_and_and_comm

/-! ### Standard input -/

/-- A line without the line ends behind it. -/
def Stripped (line path : List Char) : Prop :=
  ∃ ends, path ++ ends = line ∧ (∀ c ∈ ends, c = '\r' ∨ c = '\n') ∧
    ∀ c ∈ path.getLast?, c ≠ '\r' ∧ c ≠ '\n'

/-- Standard input holds these paths: its lines without their ends, as far as something is left. -/
def Holds (stdin : String) (paths : List String) : Prop :=
  ∃ rows stripped : List (List Char), ['\n'].intercalate rows = stdin.toList ∧
    (∀ row ∈ rows, '\n' ∉ row) ∧ List.Forall₂ Stripped rows stripped ∧
    paths = (stripped.filter (!·.isEmpty)).map String.ofList

theorem stripped_dropTrailing (line : List Char) :
    Stripped line (dropTrailing (fun c => c == '\r' || c == '\n') line) := by
  rw [show dropTrailing (fun c => c == '\r' || c == '\n') line = line.rdropWhile _ from rfl]
  refine ⟨line.rtakeWhile _, List.rdropWhile_append_rtakeWhile, fun c member => ?_, ?_⟩
  · simpa using List.mem_rtakeWhile_imp member
  · intro c last
    obtain ⟨some, rfl⟩ := List.mem_getLast?_eq_getLast last
    simpa using List.rdropWhile_last_not _ line some

/-- The pieces of a text are its lines, and an empty one behind a final line end. -/
theorem pieces_eq_lines (cs : List Char) :
    pieces '\n' cs = lines cs ∨ pieces '\n' cs = lines cs ++ [[]] := by
  unfold lines
  split
  · rename_i others backwards
    right
    rw [← List.reverse_reverse (pieces '\n' cs), backwards, List.reverse_cons]
  · left
    rw [List.reverse_reverse]

theorem holds_stdinPaths (stdin : String) : Holds stdin (stdinPaths stdin) := by
  refine ⟨pieces '\n' stdin.toList,
    (pieces '\n' stdin.toList).map (dropTrailing fun c => c == '\r' || c == '\n'),
    join_pieces '\n' stdin.toList, fun row => not_mem_of_mem_pieces, ?_, ?_⟩
  · rw [List.forall₂_map_right_iff, List.forall₂_same]
    exact fun line _ => stripped_dropTrailing line
  · rcases pieces_eq_lines stdin.toList with same | final
    · rw [same, stdinPaths]
    · rw [final, stdinPaths, List.map_append, List.filter_append]
      simp [dropTrailing]

/-- Paths are collected as told by the arguments one by one. The entries are the accessible ones
among the paths that the arguments stand for, with their canonical names, in order and as often as
they are named. They are preferred behind an odd number of toggles. The others leave a notice each,
and so does a `-` that finds no accessible path. Without an entry, notices are an error; without
both, there are toggles only, and the fallback is the one path. -/
theorem collect_verdict (stdin fallback : String) (arguments : List String) :
    ∃ waiting, Holds stdin waiting ∧
      let entries := entriesBehind access waiting [] arguments
      let notices := noticesBehind access waiting [] arguments
      collect access stdin fallback arguments =
          (if entries ≠ [] then .ok ⟨entries, notices, decide (notices ≠ [])⟩
          else if notices ≠ [] then .error notices
          else
            match access fallback with
            | .ok canonical => .ok ⟨[⟨canonical, prefers arguments⟩], [], false⟩
            | .error fault => .error [inaccessibleNotice fallback fault]) ∧
        (entries = [] ∧ notices = [] ↔ ∀ argument ∈ arguments, argument = preferredToggle) := by
  refine ⟨stdinPaths stdin, holds_stdinPaths stdin, ?_,
    addsBehind_nothing_iff access _ [] arguments⟩
  have collected : addArguments access false (stdinPaths stdin) empty arguments = _ :=
    addArguments_eq_plus access empty (stdinPaths stdin) [] arguments
  unfold collect
  rw [collected, List.nil_append]
  generalize entriesBehind access (stdinPaths stdin) [] arguments = entries
  generalize noticesBehind access (stdinPaths stdin) [] arguments = notices
  cases entries with
  | cons entry more => cases notices <;> simp [plus, empty]
  | nil =>
    cases notices with
    | cons notice others => simp [plus, empty]
    | nil => cases found : access fallback <;> simp [plus, empty, add, failing, found]

/-- A second `-` finds nothing left, and only the path behind the toggle is preferred. -/
example :
    collect .ok "a\r\n\nb" "." ["-", "//", "c", "-"] =
      .ok ⟨[⟨"a", false⟩, ⟨"b", false⟩, ⟨"c", true⟩], [emptyStdinNotice], true⟩ := by
  rfl

end PathList

end ScanSetup
