import ScanSetup.Number.Decimal
import ScanSetup.Text.Split

set_option autoImplicit false

namespace ScanSetup.Listing

open Number Text

structure Column where
  header : String
  cells : List String
  wraps : Bool
  deriving DecidableEq, Repr

/-- The width of the blanks around a cell. -/
def cellPadding : Nat := 2

/-- The width of a column that wraps nothing. -/
def Column.natural (c : Column) : Nat :=
  ((c.header :: c.cells).map String.length).foldl max 0 + cellPadding

/-- The width of the widest column that may wrap, columns of the width `other` aside. -/
def widest (columns : List (Nat × Bool)) (other : Option Nat) : Nat :=
  (columns.map fun (width, wraps) => if wraps && some width != other then width else 0).foldl max 0

/-- Shares out `total` among the places that take some of it, at most `most` to each, as evenly as
whole numbers allow. What a place cannot take goes to those behind it. -/
def shareOut (most total : Nat) : List Bool → List Nat
  | [] => []
  | takes :: rest =>
    if takes then
      let takers := 1 + (rest.filter id).length
      let share := min most (roundDiv .toEven total takers)
      share :: shareOut most (total - share) rest
    else 0 :: shareOut most total rest

/-- Narrows the widest columns to the width of the next widest, until `excess` is used up or at most
`fuel` times. -/
def collapse (fuel excess : Nat) (columns : List (Nat × Bool)) : List Nat :=
  match fuel with
  | 0 => columns.map (·.1)
  | fuel + 1 =>
    let most := widest columns none
    let next := widest columns (some most)
    if excess = 0 || most = next then columns.map (·.1)
    else
      let step := min excess (most - next)
      let takes := columns.map fun (width, wraps) => wraps && width == most
      let cuts := shareOut step excess takes
      let narrowed := (columns.zip cuts).map fun ((width, wraps), cut) => (width - cut, wraps)
      collapse fuel (excess - (cuts.foldl (· + ·) 0)) narrowed

/-- The widths of columns in a table of `total` characters, blanks around cells included. -/
def widths (total : Nat) (columns : List Column) : List Nat :=
  let natural := columns.map fun c => (c.natural, c.wraps)
  let sum := (natural.map (·.1)).foldl (· + ·) 0
  collapse sum (sum - total) natural

/-- Fills lines of `width` characters with words. -/
def fill (width : Nat) (line : List Char) : List (List Char) → List (List Char)
  | [] => if line.isEmpty then [] else [line]
  | word :: rest =>
    if line.isEmpty then fill width word rest
    else if line.length + 1 + word.length ≤ width then fill width (line ++ ' ' :: word) rest
    else line :: fill width word rest

/-- The lines of a cell; always at least one. -/
def cellLines (width : Nat) (text : String) : List String :=
  match fill width [] ((pieces ' ' text.toList).filter (!·.isEmpty)) with
  | [] => [""]
  | lines => lines.map String.ofList

def spaces (n : Nat) : String := String.ofList (List.replicate n ' ')

/-- A text with blanks behind it up to `width` characters. -/
def padRight (width : Nat) (s : String) : String := s ++ spaces (width - s.length)

/-- A text with blanks on both sides; the right one gets the odd blank. -/
def center (width : Nat) (s : String) : String :=
  let blanks := width - s.length
  spaces (blanks / 2) ++ s ++ spaces (blanks - blanks / 2)

def rowLines (widths : List Nat) (cells : List String) : List String :=
  let wrapped := (widths.zip cells).map fun (width, cell) =>
    (width, cellLines (width - cellPadding) cell)
  let height := (wrapped.map fun (_, lines) => lines.length).foldl max 0
  (List.range height).map fun i =>
    let texts := wrapped.map fun (width, lines) =>
      " " ++ padRight (width - cellPadding) (lines.getD i "") ++ " "
    " " ++ " ".intercalate texts ++ " "

/-- A table with a title, a header and a rule under it, between two blank lines. -/
def layout (total : Nat) (title : String) (columns : List Column) : List String :=
  let frame := 2 + (columns.length - 1)
  let widths := widths (total - frame) columns
  let width := widths.foldl (· + ·) 0 + frame
  let rows := (List.range ((columns.map (·.cells.length)).foldl max 0)).map fun i =>
    columns.map fun c => c.cells.getD i ""
  let rule := String.ofList (List.replicate (width - 2) '─')
  [center width title, spaces width] ++ rowLines widths (columns.map (·.header)) ++
    [" " ++ rule ++ " "] ++ rows.flatMap (rowLines widths) ++ [spaces width]

end ScanSetup.Listing
