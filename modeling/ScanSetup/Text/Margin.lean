import ScanSetup.Text.Character
import ScanSetup.Text.Split

set_option autoImplicit false

namespace ScanSetup.Text

/-- The distance between tab stops. -/
def tabWidth : Nat := 8

/-- The text with spaces up to the next tab stop in place of its tabs. It starts at `column`. -/
def expandTabsFrom (column : Nat) : List Char → List Char
  | [] => []
  | c :: rest =>
    if c == '\t' then
      let gap := tabWidth - column % tabWidth
      List.replicate gap ' ' ++ expandTabsFrom (column + gap) rest
    else c :: expandTabsFrom (if c == '\n' || c == '\r' then 0 else column + 1) rest

/-- The number of white space characters at the start of a line. -/
def indentation (line : List Char) : Nat := (line.takeWhile isBlank).length

/-- The least indentation of the lines that are not blank; zero if all of them are. -/
def margin (lines : List (List Char)) : Nat :=
  ((lines.filter (!·.all isBlank)).map indentation).min?.getD 0

/-- The lines of a text set flush left. The first line, which often stands behind other text, has no
part in the margin of the others. Empty lines at both ends are left out. -/
def flushLines (lines : List (List Char)) : List (List Char) :=
  match lines with
  | [] => []
  | first :: others =>
    let moved := first.dropWhile isBlank :: others.map (·.drop (margin others))
    (dropTrailing List.isEmpty moved).dropWhile List.isEmpty

/-- The text set flush left. -/
def flushLeft (s : String) : String :=
  "\n".intercalate
    ((flushLines (pieces '\n' (expandTabsFrom 0 s.toList))).map String.ofList)

end ScanSetup.Text
