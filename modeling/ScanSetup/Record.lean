import ScanSetup.Number.Binary64
import ScanSetup.Number.Binary64.Writing
import ScanSetup.Number.Integer

set_option autoImplicit false

namespace ScanSetup

inductive Value
  | null
  | bool (b : Bool)
  | integer (n : Int)
  | real (x : Number.Binary64)
  | text (s : String)
  | list (items : List Value)
  | record (fields : List (String × Value))

namespace Value

def texts (items : List String) : Value := .list (items.map .text)

def field? (name : String) : Value → Option Value
  | .record fields => fields.lookup name
  | _ => none

/-- Four hexadecimal digits behind `\u`. -/
def unicodeEscape (n : Nat) : List Char :=
  '\\' :: 'u' :: [3, 2, 1, 0].map fun i => Nat.digitChar (n / Nat.pow 16 i % 16)

/-- One character of a JSON text. Code points beyond 16 bits are written as surrogate pairs. -/
def escape (c : Char) : List Char :=
  if c == '\x22' || c == '\\' then ['\\', c]
  else if c == '\n' then ['\\', 'n']
  else if c == '\r' then ['\\', 'r']
  else if c == '\t' then ['\\', 't']
  else if c == '\x08' then ['\\', 'b']
  else if c == '\x0c' then ['\\', 'f']
  else if ' ' ≤ c && c ≤ '~' then [c]
  else if c.toNat < 0x10000 then unicodeEscape c.toNat
  else
    let n := c.toNat - 0x10000
    unicodeEscape (0xd800 + n / 0x400) ++ unicodeEscape (0xdc00 + n % 0x400)

/-- A JSON text with its quotes. -/
def quote (s : String) : String := "\"" ++ String.ofList (s.toList.flatMap escape) ++ "\""

/-- A line break and `depth` steps of indentation. -/
def lineBreak (depth : Nat) : String := "\n" ++ String.ofList (List.replicate (2 * depth) ' ')

/-- Items between brackets, each on a line of its own; no items need no line. -/
def bracketed (opening closing : String) (depth : Nat) (items : List String) : String :=
  if items.isEmpty then opening ++ closing
  else
    opening ++ lineBreak (depth + 1) ++
      ("," ++ lineBreak (depth + 1)).intercalate items ++ lineBreak depth ++ closing

def sortFields {α : Type} (fields : List (String × α)) : List (String × α) :=
  fields.mergeSort fun a b => a.1 ≤ b.1

mutual

/-- The JSON text of a value at a depth. There is none if a whole number has too many digits. -/
def render? (depth : Nat) : Value → Option String
  | .null => some "null"
  | .bool b => some (if b then "true" else "false")
  | .integer n => Number.integerText? n
  | .real x => some x.text
  | .text s => some (quote s)
  | .list items => (renderList? (depth + 1) items).map (bracketed "[" "]" depth)
  | .record fields =>
    (renderFields? (depth + 1) fields).map fun rendered =>
      bracketed "\x7b" "\x7d" depth
        ((sortFields rendered).map fun (name, shown) => quote name ++ ": " ++ shown)

def renderList? (depth : Nat) : List Value → Option (List String)
  | [] => some []
  | item :: rest =>
    match render? depth item, renderList? depth rest with
    | some shown, some others => some (shown :: others)
    | _, _ => none

def renderFields? (depth : Nat) : List (String × Value) → Option (List (String × String))
  | [] => some []
  | (name, item) :: rest =>
    match render? depth item, renderFields? depth rest with
    | some shown, some others => some ((name, shown) :: others)
    | _, _ => none

end

end Value

end ScanSetup
