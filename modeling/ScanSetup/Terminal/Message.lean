import ScanSetup.Terminal.Console
import ScanSetup.Terminal.Highlight

set_option autoImplicit false

namespace ScanSetup.Terminal

/-- What was written to the two output streams. -/
structure Transcript where
  output : String
  error : String
  deriving DecidableEq, Repr

namespace Transcript

def empty : Transcript := ⟨"", ""⟩

def append (a b : Transcript) : Transcript := ⟨a.output ++ b.output, a.error ++ b.error⟩

def join (all : List Transcript) : Transcript := all.foldl append empty

end Transcript

inductive Level
  | info
  | warning
  | failure
  deriving DecidableEq, Repr

def Level.sign : Level → String
  | .info => "ℹ️ "
  | .warning => "⚠️ "
  | .failure => "❌ "

def Level.style : Level → Style
  | .info => .colored .cyan
  | .warning => .colored .yellow
  | .failure => .colored .red

/-- Information goes to standard output, all else to standard error. -/
def Level.toError : Level → Bool
  | .info => false
  | _ => true

/-- A symbol, if symbols are wanted. -/
def symbol (s : String) (enabled : Bool) : String := if enabled then s else ""

/-- A line of one of the two streams. -/
def onStream (toError : Bool) (text : String) : Transcript :=
  if toError then ⟨"", text ++ "\n"⟩ else ⟨text ++ "\n", ""⟩

/-- Shows a message. Without a choice of colour, terminals show it. -/
def message (env : Environment) (level : Level) (useEmoji : Bool) (useColor? : Option Bool)
    (text : String) : Transcript :=
  let onTerminal := if level.toError then env.errorIsTerminal else env.outputIsTerminal
  let console : Console := ⟨useColor?.getD onTerminal, useEmoji, level.toError, onTerminal⟩
  let text := shown (symbol level.sign useEmoji ++ text).toList
  onStream level.toError (display console.styled [⟨text, level.style⟩])

/-- Shows a trace on standard error. -/
def trace (env : Environment) (useColor : Bool) (text : String) : Transcript :=
  onStream true (display env.errorIsTerminal ((highlight text).shownPieces useColor))

/-- The parameters of an escape sequence, up to and without the letter that ends it. -/
def isParameter (c : Char) : Bool := c == ';' || c == '?' || c.isDigit

/-- The text behind the escape sequence that a text starts with. -/
def skipSequence? : List Char → Option (List Char)
  | '\x1b' :: '[' :: rest =>
    match rest.dropWhile isParameter with
    | c :: rest => if c.isAlpha then some rest else none
    | [] => none
  | _ => none

/-- The text without escape sequences, reading at most `fuel` characters. -/
def withoutSequencesFrom (fuel : Nat) (cs : List Char) : List Char :=
  match fuel, cs with
  | 0, _ => cs
  | _, [] => []
  | fuel + 1, c :: rest =>
    match skipSequence? (c :: rest) with
    | some rest => withoutSequencesFrom fuel rest
    | none => c :: withoutSequencesFrom fuel rest

/-- The text without escape sequences. -/
def withoutSequences (s : String) : String :=
  String.ofList (withoutSequencesFrom s.length s.toList)

/-- Writes a line to standard output as it is; escape sequences are for terminals only. -/
def echo (env : Environment) (text : String) : Transcript :=
  onStream false (if env.outputIsTerminal then text else withoutSequences text)

/-- The sequences of the named colours, all of them bold. -/
def colorSequence (name : String) : String :=
  match name with
  | "reset" => escape ++ "[0m"
  | "cyan" => escape ++ "[36;1m"
  | "green" => escape ++ "[32;1m"
  | "yellow" => escape ++ "[33;1m"
  | "red" => escape ++ "[31;1m"
  | _ => ""

/-- A text in a named colour, on a terminal. Unknown names leave it uncoloured. -/
def colorize (env : Environment) (text name : String) (enabled : Bool) : String :=
  if enabled && env.outputIsTerminal then colorSequence name ++ text ++ colorSequence "reset"
  else text

end ScanSetup.Terminal
