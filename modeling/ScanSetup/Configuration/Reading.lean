import ScanSetup.Configuration.Fields
import ScanSetup.Number.Binary64.Reading

set_option autoImplicit false

namespace ScanSetup

open Number

/-- What was read, with a stand-in where a field is broken, and the issues. -/
structure Reading (α : Type) where
  result : α
  issues : List Issue

namespace Reading

def pure {α : Type} (a : α) : Reading α := ⟨a, []⟩

def broken {α : Type} (standIn : α) (kind : IssueKind) (path : List String) : Reading α :=
  ⟨standIn, [⟨kind, path⟩]⟩

def map {α β : Type} (f : α → β) (r : Reading α) : Reading β := ⟨f r.result, r.issues⟩

/-- Both readings, with all their issues. -/
def map₂ {α β γ : Type} (f : α → β → γ) (a : Reading α) (b : Reading β) : Reading γ :=
  ⟨f a.result b.result, a.issues ++ b.issues⟩

end Reading

/-- Reads a value at the path of a field. -/
abbrev Reader (α : Type) := List String → Value → Reading α

namespace Value

def readInteger : Reader Int
  | _, .integer n => .pure n
  | path, _ => .broken 0 .wrongType path

def readBool : Reader Bool
  | _, .bool b => .pure b
  | path, _ => .broken false .wrongType path

def readText : Reader String
  | _, .text s => .pure s
  | path, _ => .broken "" .wrongType path

/-- Numbers may be written as texts. -/
def readReal : Reader Binary64
  | _, .real x => .pure x
  | _, .integer n =>
    .pure (Binary64.ofQuotient (decide (n < 0)) (n.natAbs * Binary64.one) 1)
  | path, .text s =>
    match Binary64.read? s with
    | some x => .pure x
    | none => .broken Binary64.zero .wrongType path
  | path, _ => .broken Binary64.zero .wrongType path

def readNamed {α : Type} (standIn : α) (named? : String → Option α) : Reader α
  | path, .text s =>
    match named? s with
    | some a => .pure a
    | none => .broken standIn .unknownName path
  | path, _ => .broken standIn .unknownName path

def readItems {α : Type} (read : Reader α) (path : List String) : Nat → List Value →
    Reading (List α)
  | _, [] => .pure []
  | index, item :: rest =>
    .map₂ (· :: ·) (read (path ++ [toString index]) item) (readItems read path (index + 1) rest)

def readList {α : Type} (read : Reader α) : Reader (List α)
  | path, .list items => readItems read path 0 items
  | path, _ => .broken [] .wrongType path

/-- A field that has to be there. -/
def required {α : Type} (standIn : α) (read : Reader α) (name : String) : Reader α :=
  fun path value =>
    match value.field? name with
    | some field => read (path ++ [name]) field
    | none => .broken standIn .missing (path ++ [name])

/-- A field that has a default. -/
def optional {α : Type} (default : α) (read : Reader α) (name : String) : Reader α :=
  fun path value =>
    match value.field? name with
    | some field => read (path ++ [name]) field
    | none => .pure default

/-- An offset is not negative. -/
def readOffset : Reader Int := fun path value =>
  let reading := readInteger path value
  if reading.issues.isEmpty && reading.result < 0 then .broken 0 .belowMinimum path else reading

/-- A ratio lies between zero and one. -/
def readRatio : Reader Binary64 := fun path value =>
  let reading := readReal path value
  if !reading.issues.isEmpty then reading
  else if !reading.result.le Binary64.unit then .broken Binary64.zero .aboveMaximum path
  else if !Binary64.zero.le reading.result then .broken Binary64.zero .belowMinimum path
  else reading

def readAbsolute : Reader Clamp := fun path value =>
  (required 0 readOffset "offset" path value).map .absolute

def readFractional : Reader Clamp := fun path value =>
  (required Binary64.zero readRatio "ratio" path value).map .fractional

/-- A boundary says of which kind it is. -/
def readClamp : Reader Clamp := fun path value =>
  match value.field? "kind" with
  | none => .broken .fileStart .noTag path
  | some (.text "absolute") => readAbsolute (path ++ ["absolute"]) value
  | some (.text "fractional") => readFractional (path ++ ["fractional"]) value
  | some _ => .broken .fileStart .unknownTag path

def readTimeFilter : Reader TimeFilter := fun path value =>
  .map₂ .mk (optional false readBool "enabled" path value)
    (optional 0 readInteger "min_mtime" path value)

def readSink : Reader Sink := fun path value =>
  .map₂ .mk (required "" readText "formatter" path value)
    (optional standardOutput readText "target" path value)

def readOverride : Reader Override := fun path value =>
  .map₂ (fun (formatter, key) value => ⟨formatter, key, value⟩)
    (.map₂ Prod.mk (required "" readText "formatter" path value)
      (required "" readText "key" path value))
    (optional defaultValue readText "value" path value)

def readPathEntry : Reader PathEntry := fun path value =>
  .map₂ .mk (required "" readText "path" path value)
    (optional false readBool "is_preferred" path value)

end Value

namespace Configuration

open Value

def update (c : Configuration) (change : Settings → Settings) : Configuration :=
  { c with settings := change c.settings }

/-- Sets the field `name`, if there is one. -/
def readField (c : Configuration) (name : String) (value : Value) : Reading Configuration :=
  let path := [name]
  match Switch.all.find? (·.name == name), Lint.Category.all.find? (·.name == name) with
  | some switch, _ =>
    (readBool path value).map fun on => c.update (·.withSwitch switch on)
  | none, some category =>
    (readBool path value).map fun on =>
      c.update fun s =>
        { s with lint := fun other => if other = category then on else s.lint other }
  | none, none =>
    match name with
    | "threads" => (readInteger path value).map fun n => c.update ({ · with threads := n })
    | "depth" => (readInteger path value).map fun n => c.update ({ · with depth := n })
    | "min_size" => (readInteger path value).map fun n => c.update ({ · with minSize := n })
    | "max_size" => (readInteger path value).map fun n => c.update ({ · with maxSize := n })
    | "limits_specified" =>
      (readBool path value).map fun b => c.update ({ · with limitsSpecified := b })
    | "checksum_type" =>
      (readNamed .spooky Checksum.named? path value).map fun a =>
        c.update ({ · with checksum := a })
    | "paranoia" => (readInteger path value).map fun n => c.update ({ · with paranoia := n })
    | "paranoid_mem" => (readInteger path value).map fun n => c.update ({ · with paranoidMem := n })
    | "sort_criteria" => (readText path value).map fun s => c.update ({ · with sortCriteria := s })
    | "clamp_start" => (readClamp path value).map fun b => c.update ({ · with clampStart := b })
    | "clamp_end" => (readClamp path value).map fun b => c.update ({ · with clampEnd := b })
    | "time_filter" =>
      (readTimeFilter path value).map fun f => c.update ({ · with timeFilter := f })
    | "outputs" => (readList readSink path value).map fun l => c.update ({ · with outputs := l })
    | "output_config" =>
      (readList readOverride path value).map fun l => c.update ({ · with outputConfig := l })
    | "caches" => (readList readText path value).map fun l => c.update ({ · with caches := l })
    | "working_directory" =>
      (readText path value).map fun s => c.update ({ · with workingDirectory := s })
    | "command_line" => (readText path value).map fun s => c.update ({ · with commandLine := s })
    | "verbosity" =>
      (readNamed .warning Verbosity.named? path value).map fun v => { c with verbosity := v }
    | "paths" => (readList readPathEntry path value).map fun l => { c with paths := l }
    | _ => .broken c .unknownField path

def readFields (c : Configuration) : List (String × Value) → Reading Configuration
  | [] => .pure c
  | (name, value) :: rest =>
    let first := c.readField name value
    let others := readFields first.result rest
    ⟨others.result, first.issues ++ others.issues⟩

/-- The configuration with the given fields; the others have their defaults. -/
def ofFields (fields : List (String × Value)) : Except Failure Configuration :=
  let reading := readFields .default fields
  if reading.issues.isEmpty then reading.result.checked else .error (.invalid reading.issues)

end Configuration

/-- A boundary with the given fields; `read` says of which kind it is. -/
def Clamp.ofFields (read : Reader Clamp) (fields : List (String × Value)) :
    Except Failure Clamp :=
  let reading := read [] (.record fields)
  if reading.issues.isEmpty then .ok reading.result else .error (.invalid reading.issues)

end ScanSetup
