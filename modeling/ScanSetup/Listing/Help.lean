import ScanSetup.Listing.Flag
import ScanSetup.Text.Case
import ScanSetup.Text.Margin

set_option autoImplicit false

namespace ScanSetup.Listing

open Text

/-- The name a parameter is sorted by: its first long name, else its first name, else the name of
the parameter; without dashes in front and in lower case. -/
def sortKey (names secondary : List String) (name? : Option String) : String :=
  let all := names ++ secondary
  let isLong := fun (name : String) => name.toList.take 2 == ['-', '-']
  let chosen := ((all.find? isLong).or all.head?).getD (name?.getD "")
  lower (String.ofList (chosen.toList.dropWhile (· == '-')))

inductive Parameter
  | argument (name help : String) (hidden : Bool)
  | flag (names : FlagNames) (help : String) (hidden : Bool)
  deriving DecidableEq, Repr

namespace Parameter

/-- A flag with its names as they are declared. Its help is set flush left. -/
def ofDeclaration (declaration : List String) (help : String) (hidden : Bool) :
    Except DeclarationFault Parameter :=
  (FlagNames.ofDeclaration declaration).map fun names => .flag names (flushLeft help) hidden

/-- A row of a help section: names and description. Hidden parameters have none. -/
def row? : Parameter → Option (String × String)
  | argument name help hidden =>
    if hidden then none
    else
      let plain := String.ofList (name.toList.map fun c => if c == '-' then '_' else c)
      let mark := "[required]"
      some (upper (lower plain), if help.isEmpty then mark else help ++ "  " ++ mark)
  | flag names help hidden => if hidden then none else some (names.listed, help)

/-- The name an option is sorted by; arguments are not sorted. -/
def key : Parameter → String
  | argument name _ _ => sortKey [name] [] none
  | flag names _ _ => sortKey names.on names.off none

def isArgument : Parameter → Bool
  | argument _ _ _ => true
  | flag _ _ _ => false

end Parameter

structure Section where
  title : String
  rows : List (String × String)
  deriving DecidableEq, Repr

/-- The sections of a command's help. Those without rows are left out. -/
def helpSections (parameters : List Parameter) : List Section :=
  let arguments := parameters.filter (·.isArgument)
  let options := (parameters.filter (!·.isArgument)).mergeSort fun a b => a.key ≤ b.key
  let sections : List Section :=
    [⟨"Arguments", arguments.filterMap Parameter.row?⟩,
      ⟨"Options", options.filterMap Parameter.row?⟩]
  sections.filter (!·.rows.isEmpty)

def commandNames (names : List String) : List String :=
  names.eraseDups.mergeSort fun a b => a ≤ b

end ScanSetup.Listing
