import ScanSetup.Failure
import ScanSetup.Options.Schema

set_option autoImplicit false

namespace ScanSetup

open Text Options

/-- An option with its value and the text that named it, or a path. -/
inductive Token (Meaning : Type)
  | option (spec : Spec Meaning) (value written : String)
  | path (value : String)

/-- The tokens of a command line up to the first error. -/
structure Tokens (Meaning : Type) where
  list : List (Token Meaning)
  error? : Option UsageError

namespace Tokens

variable {Meaning : Type}

def after (front : List (Token Meaning)) (tokens : Tokens Meaning) : Tokens Meaning :=
  { tokens with list := front ++ tokens.list }

end Tokens

/-- The argument that ends the options. -/
def endOfOptions : String := "--"

/-- How an argument looks: a path, a long option with what follows its first `=`, or a cluster of
short options. -/
inductive Shape
  | path
  | long (name : String) (value? : Option String)
  | cluster (names : List Char)
  deriving DecidableEq, Repr

/-- The shape of an argument. A lone dash is a path. -/
def Shape.of (argument : String) : Shape :=
  match argument.toList with
  | '-' :: '-' :: rest =>
    let (name, value?) := cut '=' rest
    .long (String.ofList name) (value?.map String.ofList)
  | ['-'] => .path
  | '-' :: names => .cluster names
  | _ => .path

def shortText (name : Char) : String := "-" ++ String.singleton name

inductive Scan (Meaning : Type)
  | complete (tokens : List (Token Meaning))
  /-- The option behind the tokens takes the next argument as its value. -/
  | waiting (tokens : List (Token Meaning)) (spec : Spec Meaning) (written : String)
  | failed (tokens : List (Token Meaning)) (error : UsageError)

def Scan.after {Meaning : Type} (front : List (Token Meaning)) : Scan Meaning → Scan Meaning
  | .complete tokens => .complete (front ++ tokens)
  | .waiting tokens spec written => .waiting (front ++ tokens) spec written
  | .failed tokens error => .failed (front ++ tokens) error

/-- A long option, with the text behind its `=` if there is one. -/
def scanLong {Meaning : Type} (schema : Schema Meaning) (argument name : String)
    (value? : Option String) : Scan Meaning :=
  match schema.findLong? name with
  | none => .failed [] (.unknownLong name)
  | some spec =>
    match spec.takesValue, value? with
    | true, some value => .complete [.option spec value argument]
    | true, none => .waiting [] spec argument
    | false, some _ => .failed [] (.unexpectedValue name)
    | false, none => .complete [.option spec "" argument]

/-- A cluster of short options. The first one that takes a value ends it: its value is the rest of
the cluster, or the next argument if there is no rest. -/
def scanCluster {Meaning : Type} (schema : Schema Meaning) : List Char → Scan Meaning
  | [] => .complete []
  | name :: rest =>
    match schema.findShort? (String.singleton name) with
    | none => .failed [] (.unknownShort name)
    | some spec =>
      if spec.takesValue then
        if rest.isEmpty then .waiting [] spec (shortText name)
        else .complete [.option spec (String.ofList rest) (shortText name)]
      else (scanCluster schema rest).after [.option spec "" (shortText name)]

def scan {Meaning : Type} (schema : Schema Meaning) (argument : String) : Scan Meaning :=
  match Shape.of argument with
  | .path => .complete [.path argument]
  | .long name value? => scanLong schema argument name value?
  | .cluster names => scanCluster schema names

def tokenize {Meaning : Type} (schema : Schema Meaning) : List String → Tokens Meaning
  | [] => ⟨[], none⟩
  | argument :: rest =>
    if argument == endOfOptions then ⟨rest.map .path, none⟩
    else
      match scan schema argument with
      | .complete tokens => (tokenize schema rest).after tokens
      | .failed tokens error => ⟨tokens, some error⟩
      | .waiting tokens spec written =>
        match rest with
        | [] => ⟨tokens, some (.missingValue written)⟩
        | value :: rest => (tokenize schema rest).after (tokens ++ [.option spec value written])

end ScanSetup
