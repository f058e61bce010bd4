set_option autoImplicit false

namespace ScanSetup.Terminal

/-- The colours in use. -/
inductive Color
  | red
  | green
  | yellow
  | blue
  | magenta
  | cyan
  deriving DecidableEq, Repr

def Color.name : Color → String
  | red => "red"
  | green => "green"
  | yellow => "yellow"
  | blue => "blue"
  | magenta => "magenta"
  | cyan => "cyan"

/-- The number that selects a colour for text. -/
def Color.code : Color → Nat
  | red => 31
  | green => 32
  | yellow => 33
  | blue => 34
  | magenta => 35
  | cyan => 36

/-- How a text looks. -/
structure Style where
  bold : Bool
  dim : Bool
  color? : Option Color
  deriving DecidableEq, Repr

namespace Style

def dimmed : Style := ⟨false, true, none⟩

def boldIn (color : Color) : Style := ⟨true, false, some color⟩

def colored (color : Color) : Style := ⟨false, false, some color⟩

/-- The words that describe a style. -/
def name (s : Style) : String :=
  " ".intercalate
    ((if s.bold then ["bold"] else []) ++ (if s.dim then ["dim"] else []) ++
      (s.color?.map Color.name).toList)

/-- A style on top of another, whose properties it keeps where it has none of its own. -/
def onTop (s base : Style) : Style :=
  ⟨s.bold || base.bold, s.dim || base.dim, s.color? <|> base.color?⟩

def withoutColor (s : Style) : Style := { s with color? := none }

/-- The numbers that switch a style on. -/
def codes (s : Style) : List Nat :=
  (if s.bold then [1] else []) ++ (if s.dim then [2] else []) ++ (s.color?.map Color.code).toList

end Style

/-- The character that starts an escape sequence. -/
def escape : String := "\x1b"

/-- A text between the sequences that switch a style on and off. -/
def paint (s : Style) (text : String) : String :=
  if text.isEmpty || s.codes.isEmpty then text
  else
    escape ++ "[" ++ ";".intercalate (s.codes.map toString) ++ "m" ++ text ++ escape ++ "[0m"

end ScanSetup.Terminal
