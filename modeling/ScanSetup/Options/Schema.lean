set_option autoImplicit false

namespace ScanSetup.Options

/-- An option. Its meaning is of any type. -/
structure Spec (Meaning : Type) where
  long : String
  short? : Option String
  takesValue : Bool
  help : String
  metavar? : Option String
  meaning : Meaning

/-- The names of an option as they are listed: `-x, --long`. -/
def Spec.displayNames {Meaning : Type} (spec : Spec Meaning) : String :=
  match spec.short? with
  | some short => if short.isEmpty then "--" ++ spec.long else "-" ++ short ++ ", --" ++ spec.long
  | none => "--" ++ spec.long

inductive Duplicate
  | long (name : String)
  | short (name : String)
  deriving DecidableEq, Repr

def Duplicate.message : Duplicate → String
  | .long name => "duplicate long option --" ++ name
  | .short name => "duplicate short option -" ++ name

/-- The first name that occurs among the names seen before it. An option's long name comes before
its short one. -/
def duplicateAfter? {Meaning : Type} (longs shorts : List String) :
    List (Spec Meaning) → Option Duplicate
  | [] => none
  | spec :: rest =>
    if longs.contains spec.long then some (.long spec.long)
    else
      match spec.short? with
      | none => duplicateAfter? (spec.long :: longs) shorts rest
      | some short =>
        if shorts.contains short then some (.short short)
        else duplicateAfter? (spec.long :: longs) (short :: shorts) rest

/-- The first name that two options share. -/
def duplicate? {Meaning : Type} (specs : List (Spec Meaning)) : Option Duplicate :=
  duplicateAfter? [] [] specs

/-- Options without a name in common, in the order in which they are listed. -/
structure Schema (Meaning : Type) where
  specs : List (Spec Meaning)
  distinct : duplicate? specs = none

namespace Schema

/-- The schema of a list of options, unless two of them share a name. -/
def ofList {Meaning : Type} (specs : List (Spec Meaning)) : Except Duplicate (Schema Meaning) :=
  match h : duplicate? specs with
  | none => .ok ⟨specs, h⟩
  | some duplicate => .error duplicate

def findLong? {Meaning : Type} (schema : Schema Meaning) (name : String) : Option (Spec Meaning) :=
  schema.specs.find? (·.long == name)

def findShort? {Meaning : Type} (schema : Schema Meaning) (name : String) :
    Option (Spec Meaning) :=
  schema.specs.find? (·.short? == some name)

end Schema

end ScanSetup.Options
