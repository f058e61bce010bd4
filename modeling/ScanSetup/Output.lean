import ScanSetup.Text.Split

set_option autoImplicit false

namespace ScanSetup

open Text

/-- A formatter and the place it writes to. -/
structure Sink where
  formatter : String
  target : String
  deriving DecidableEq, Repr

/-- A key and its value in the configuration of a formatter. -/
structure Override where
  formatter : String
  key : String
  value : String
  deriving DecidableEq, Repr

def standardOutput : String := "stdout"

/-- The formatter that writes the time of a run. -/
def stampFormatter : String := "stamp"

def formatters : List String :=
  ["csv", "fdupes", "json", "pretty", "progressbar", "py", "sh", stampFormatter, "summary"]

def isFormatter (name : String) : Bool := formatters.contains name

inductive Preset
  | report
  | progress
  deriving DecidableEq, Repr

def Preset.sinks : Preset → List Sink
  | .report => [⟨"pretty", standardOutput⟩, ⟨"summary", standardOutput⟩, ⟨"sh", "dupelint.sh"⟩]
  | .progress =>
    [⟨"progressbar", standardOutput⟩, ⟨"summary", standardOutput⟩, ⟨"sh", "dupelint.sh"⟩]

/-- Reads `formatter` or `formatter:target`. -/
def Sink.parse (pair : String) : Sink :=
  match cut ':' pair.toList with
  | (_, none) => ⟨pair, standardOutput⟩
  | (formatter, some target) => ⟨String.ofList formatter, String.ofList target⟩

/-- The value of a key that is given without one. -/
def defaultValue : String := "1"

inductive OverrideFault
  | noFormatter
  | noKey
  deriving DecidableEq, Repr

def OverrideFault.message (pair : String) : OverrideFault → String
  | .noFormatter => "No format (format:key[=val]) specified in '" ++ pair ++ "'."
  | .noKey => "Missing key (format:key[=val]) in '" ++ pair ++ "'."

/-- Reads `formatter:key` or `formatter:key=value`. -/
def Override.parse (pair : String) : Except OverrideFault Override :=
  match cut ':' pair.toList with
  | (_, none) => .error .noFormatter
  | (formatter, some rest) =>
    match cut '=' rest with
    | ([], _) => .error .noKey
    | (key, value?) =>
      let value := (value?.map String.ofList).getD defaultValue
      .ok ⟨String.ofList formatter, String.ofList key, value⟩

/-- The configuration of one formatter: each key with its last value, in the order in which the
keys first occur. -/
def sinkConfig (overrides : List Override) (formatter : String) : List (String × String) :=
  let own := overrides.filter (·.formatter == formatter)
  let keys := (own.map (·.key)).eraseDups
  keys.map fun key => (key, ((own.reverse.find? (·.key == key)).map (·.value)).getD "")

end ScanSetup
