import ScanSetup.Terminal.Style
import ScanSetup.Text.Character
import ScanSetup.Text.Split

set_option autoImplicit false

namespace ScanSetup.Terminal

open Text

/-- The number of characters that fit on a line. -/
def lineWidth : Nat := 80

/-- A text in one style. -/
structure Piece where
  text : String
  style : Style
  deriving DecidableEq, Repr

/-- A line in pieces, none of which has a line end. -/
structure Line where
  pieces : List Piece
  deriving DecidableEq, Repr

namespace Line

def text (line : Line) : String := String.join (line.pieces.map (·.text))

def painted (line : Line) : String :=
  String.join (line.pieces.map fun piece => paint piece.style piece.text)

def takeChars (n : Nat) : List Piece → List Piece
  | [] => []
  | piece :: rest =>
    ⟨String.ofList (piece.text.toList.take n), piece.style⟩ ::
      takeChars (n - piece.text.length) rest

/-- The number of characters up to the last one that is not white space, or up to the width if that
is more. -/
def fittedLength (cs : List Char) : Nat := max lineWidth (dropTrailing isBlank cs).length

/-- The line without the white space at its end that does not fit. -/
def fitted (line : Line) : Line := ⟨takeChars (fittedLength line.text.toList) line.pieces⟩

/-- The lines of a text of one style. -/
def ofPiece (piece : Piece) : List Line :=
  (Text.pieces '\n' piece.text.toList).map fun cs => ⟨[⟨String.ofList cs, piece.style⟩]⟩

/-- Lines of which the first one of `next` continues the last one of `lines`. -/
def continued (lines next : List Line) : List Line :=
  match lines, next with
  | [], next => next
  | [last], [] => [last]
  | [last], first :: rest => ⟨last.pieces ++ first.pieces⟩ :: rest
  | line :: others, next => line :: continued others next

/-- The lines of a text in pieces. -/
def ofPieces (all : List Piece) : List Line :=
  all.foldr (fun piece next => continued (ofPiece piece) next) []

end Line

/-- A text in pieces as it is shown, line by line and without a line end behind it. -/
def display (styled : Bool) (all : List Piece) : String :=
  "\n".intercalate ((Line.ofPieces all).map fun line =>
    if styled then line.fitted.painted else line.fitted.text)

end ScanSetup.Terminal
