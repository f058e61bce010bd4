import ScanSetup.Terminal.Line
import ScanSetup.Text.Character
import ScanSetup.Text.Word

set_option autoImplicit false

namespace ScanSetup.Terminal

open Text

def isKey (c : Char) : Bool := isWord c || c == '-'

/-- The text up to the next `quote` on the same line, and what follows the quote. -/
def closing? (quote : Char) (cs : List Char) : Option (List Char × List Char) :=
  let inner := cs.takeWhile fun c => c != quote && c != '\n'
  match cs.drop inner.length with
  | c :: rest => if c == quote then some (inner, rest) else none
  | [] => none

/-- The characters up to the next white space, of which there has to be one. -/
def bareWord? (cs : List Char) : Option (List Char × List Char) :=
  let word := cs.takeWhile fun c => !isBlank c
  if word.isEmpty then none else some (word, cs.drop word.length)

/-- The value at the start of a text: a quoted text if its quote is closed, else a word. -/
def value? (cs : List Char) : Option (List Char × List Char) :=
  match cs with
  | [] => none
  | quote :: rest =>
    if quote == '\x27' || quote == '\x22' then
      match closing? quote rest with
      | some (inner, rest) => some (quote :: inner ++ [quote], rest)
      | none => bareWord? cs
    else bareWord? cs

/-- The pair at the start of a text, and what follows it. -/
def pair? (cs : List Char) : Option ((List Char × List Char) × List Char) :=
  let key := cs.takeWhile isKey
  if key.isEmpty then none
  else
    match cs.drop key.length with
    | '=' :: rest => (value? rest).map fun (value, rest) => ((key, value), rest)
    | _ => none

inductive Stretch
  | plain (text : List Char)
  | pair (key value : List Char)
  deriving DecidableEq, Repr

/-- The stretch without a pair at the start of a text: a run of key characters, or one other
character. -/
def plainStart (cs : List Char) : List Char :=
  match cs.takeWhile isKey with
  | [] => cs.take 1
  | run => run

/-- Puts plain text in front of stretches. -/
def addPlain (text : List Char) : List Stretch → List Stretch
  | .plain other :: rest => .plain (text ++ other) :: rest
  | stretches => .plain text :: stretches

/-- Divides a text into pairs and the plain text around them. No more than `fuel` stretches are
read; the length of the text suffices. -/
def stretchesFrom (fuel : Nat) (cs : List Char) : List Stretch :=
  match fuel with
  | 0 => []
  | fuel + 1 =>
    if cs.isEmpty then []
    else
      match pair? cs with
      | some ((key, value), rest) => .pair key value :: stretchesFrom fuel rest
      | none =>
        let start := plainStart cs
        addPlain start (stretchesFrom fuel (cs.drop start.length))

/-- The pairs of a message and the plain text around them. -/
def stretches (message : String) : List Stretch :=
  stretchesFrom message.length message.toList

/-- Bell, backspace, vertical tab, form feed and carriage return are not shown. -/
def isHidden (c : Char) : Bool :=
  c == '\x07' || c == '\x08' || c == '\x0b' || c == '\x0c' || c == '\r'

/-- The characters of a text that are shown. -/
def shown (cs : List Char) : String := String.ofList (cs.filter (!isHidden ·))

/-- A text whose parts have styles on top of a common one. The head has only that one. -/
structure Styled where
  head : String
  base : Style
  pieces : List Piece
  deriving DecidableEq, Repr

/-- The style of a value. Options stand out from other keys. -/
def valueStyle (key : List Char) : Style :=
  if key == "option".toList then .boldIn .blue else .boldIn .green

def Stretch.pieces : Stretch → List Piece
  | .plain text => [⟨shown text, .dimmed⟩]
  | .pair key value =>
    [⟨shown key, .boldIn .magenta⟩, ⟨"=", .dimmed⟩, ⟨shown value, valueStyle key⟩]

/-- A trace with its pairs highlighted. -/
def highlight (message : String) : Styled where
  head := "[debug] "
  base := .boldIn .cyan
  pieces := (stretches message).flatMap Stretch.pieces

namespace Styled

def plain (t : Styled) : String := t.head ++ String.join (t.pieces.map (·.text))

/-- Where a style applies: from `first` up to, and without, `last`. -/
structure Span where
  first : Nat
  last : Nat
  style : Style
  deriving DecidableEq, Repr

/-- The spans of pieces, of which the first one starts at `offset`. -/
def spansFrom (offset : Nat) : List Piece → List Span
  | [] => []
  | piece :: rest =>
    ⟨offset, offset + piece.text.length, piece.style⟩ ::
      spansFrom (offset + piece.text.length) rest

def spans (t : Styled) : List Span := spansFrom t.head.length t.pieces

/-- The text in pieces with the styles that show, the head first. Without colours the other
properties remain. -/
def shownPieces (t : Styled) (useColor : Bool) : List Piece :=
  let look := fun (s : Style) => if useColor then s else s.withoutColor
  ⟨t.head, look t.base⟩ :: t.pieces.map fun p => ⟨p.text, look (p.style.onTop t.base)⟩

end Styled

end ScanSetup.Terminal
