import ScanSetup.Text.Character
import ScanSetup.Text.Case
import ScanSetup.Text.Identifier
import ScanSetup.Text.Quoted
import ScanSetup.Text.Split
import ScanSetup.Text.Word

set_option autoImplicit false

namespace ScanSetup.Listing

open Text

/-- The names of a flag for on and for off. -/
structure FlagNames where
  on : List String
  off : List String
  deriving DecidableEq, Repr

inductive DeclarationFault
  | twoIdentifiers (first : String)
  /-- A pair has the same name for on and for off. -/
  | samePair (declared : String)
  /-- No identifier is given, and the names yield none. -/
  | noIdentifier (declaration : List String)
  /-- Besides the identifier nothing is declared. -/
  | noNames (identifier : String)
  deriving DecidableEq, Repr

/-- A list of texts, each in quotes. The empty list is written as a pair of parentheses. -/
def quotedList (texts : List String) : String :=
  if texts.isEmpty then "()" else "[" ++ ", ".intercalate (texts.map quoted) ++ "]"

def DeclarationFault.message : DeclarationFault → String
  | twoIdentifiers first => "Name \x27" ++ first ++ "\x27 defined twice"
  | samePair declared =>
    "Boolean option " ++ quoted declared ++ " cannot use the same flag for true/false."
  | noIdentifier declaration =>
    "Could not determine name for option with declarations " ++ quotedList declaration
  | noNames identifier =>
    "No options defined but a name was passed (" ++ identifier ++ "). Did you mean to declare " ++
      "an argument instead? Did you mean to pass \x27--" ++ identifier ++ "\x27?"

/-- The number of characters in front of the name proper: none if it starts with a letter or a
numeric character, else one or two of a kind. -/
def markLength (name : String) : Nat :=
  match name.toList with
  | [] => 0
  | c :: rest =>
    if isWord c && c != '_' then 0 else if rest.head? == some c then 2 else 1

/-- A name without its mark, and with underscores for dashes. -/
def properName (name : String) : String :=
  String.ofList ((name.toList.drop (markLength name)).map fun c => if c == '-' then '_' else c)

/-- The identifier that names for on yield. It comes from the first of the names with the longest
mark. -/
def identifier? (on : List String) : Option String :=
  let longest := (on.map markLength).foldl max 0
  let chosen := on.find? fun name => markLength name == longest
  (chosen.map fun name => lower (properName name)).filter isIdentifier

def pairSeparator (declared : List Char) : Char := if declared.head? == some '/' then ';' else '/'

def nonEmptyName (name : List Char) : List String :=
  if name.isEmpty then [] else [String.ofList name]

/-- The names that a declared text other than an identifier gives. White space around the separator
belongs to neither name. -/
def declaredNames (declared : String) : Except DeclarationFault FlagNames :=
  match cut (pairSeparator declared.toList) declared.toList with
  | (_, none) => .ok ⟨[declared], []⟩
  | (first, some second) =>
    let first := dropTrailing isBlank first
    let second := second.dropWhile isBlank
    if first == second then .error (.samePair declared)
    else .ok ⟨nonEmptyName first, nonEmptyName second⟩

/-- The identifier and the names that texts give in addition to those known. -/
def collectNames (identifier? : Option String) (names : FlagNames) :
    List String → Except DeclarationFault (Option String × FlagNames)
  | [] => .ok (identifier?, names)
  | declared :: rest =>
    if isIdentifier declared then
      match identifier? with
      | some first => .error (.twoIdentifiers first)
      | none => collectNames (some declared) names rest
    else
      match declaredNames declared with
      | .error fault => .error fault
      | .ok more => collectNames identifier? ⟨names.on ++ more.on, names.off ++ more.off⟩ rest

/-- The names of a flag. A flag needs an identifier, given or taken from its names, and a name. -/
def FlagNames.ofDeclaration (declaration : List String) : Except DeclarationFault FlagNames :=
  match collectNames none ⟨[], []⟩ declaration with
  | .error fault => .error fault
  | .ok (given?, names) =>
    match given? <|> identifier? names.on with
    | none => .error (.noIdentifier declaration)
    | some identifier =>
      if names.on.isEmpty && names.off.isEmpty then .error (.noNames identifier) else .ok names

/-- Names as they are listed: those with shorter marks first. -/
def joinNames (names : List String) : String :=
  ", ".intercalate (names.mergeSort fun a b => markLength a ≤ markLength b)

/-- The mark in front of a name is a single slash. -/
def hasSlashMark (name : String) : Bool :=
  name.toList.head? == some '/' && markLength name == 1

namespace FlagNames

def all (names : FlagNames) : List String := names.on ++ names.off

def pairJoin (names : FlagNames) : String := if names.all.any hasSlashMark then "; " else " / "

def listed (names : FlagNames) : String :=
  names.pairJoin.intercalate
    (joinNames names.on :: (if names.off.isEmpty then [] else [joinNames names.off]))

end FlagNames

end ScanSetup.Listing
