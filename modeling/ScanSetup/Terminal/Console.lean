import ScanSetup.Environment

set_option autoImplicit false

namespace ScanSetup.Terminal

inductive Stream
  | answering (isTerminal : Bool)
  /-- The stream does not know the question. -/
  | silent
  | closed
  deriving DecidableEq, Repr

/-- The stream is known to be a terminal. -/
def Stream.isTerminal : Stream → Bool
  | .answering isTerminal => isTerminal
  | .silent => false
  | .closed => false

/-- The given stream is a terminal; without one, standard output is meant. -/
def isTerminal (stream? : Option Stream) (env : Environment) : Bool :=
  match stream? with
  | some stream => stream.isTerminal
  | none => env.outputIsTerminal

/-- The properties by which consoles are told apart. -/
structure Console where
  color : Bool
  emoji : Bool
  toError : Bool
  onTerminal : Bool
  deriving DecidableEq, Repr

/-- Colours are used only on a terminal. -/
def Console.styled (c : Console) : Bool := c.color && c.onTerminal

/-- The colours a console can show. -/
def Console.colorSystem? (c : Console) : Option String := if c.styled then some "standard" else none

/-- The place of each console among the distinct ones before it, in order of first use. -/
def consoleIndices (known : List Console) : List Console → List Nat
  | [] => []
  | console :: rest =>
    match known.findIdx? (· = console) with
    | some index => index :: consoleIndices known rest
    | none => known.length :: consoleIndices (known ++ [console]) rest

end ScanSetup.Terminal
