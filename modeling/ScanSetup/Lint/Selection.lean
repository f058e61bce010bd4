import ScanSetup.Lint.Catalog
import ScanSetup.Text.Letter
import ScanSetup.Text.Split

set_option autoImplicit false

namespace ScanSetup.Lint

open Text

/-- The net effect of a list of names: clear everything if `reset`, then enable, then disable. -/
structure Selection where
  reset : Bool
  enable : Categories
  disable : Categories
  notices : List String

namespace Selection

def unchanged : Selection := ⟨false, .empty, .empty, []⟩

def enabling (s : Selection) (categories : Categories) : Selection :=
  { s with enable := s.enable.union categories, disable := s.disable.diff categories }

def disabling (s : Selection) (categories : Categories) : Selection :=
  { s with enable := s.enable.diff categories, disable := s.disable.union categories }

def cleared (s : Selection) : Selection := ⟨true, .empty, .empty, s.notices⟩

def noting (s : Selection) (notice : String) : Selection :=
  { s with notices := s.notices ++ [notice] }

/-- The categories that are on after the selection, given those that were on before. -/
def apply (s : Selection) (before : Categories) : Categories :=
  fun c => !s.disable c && (s.enable c || (!s.reset && before c))

end Selection

inductive Sign
  | plus
  | minus
  deriving DecidableEq, Repr

/-- Splits a token into its sign and its name. -/
def signed : List Char → Option Sign × List Char
  | '+' :: name => (some .plus, name)
  | '-' :: name => (some .minus, name)
  | name => (none, name)

/-- The separator of a list of names: the first character that is not a letter, after the sign and
the letters at the start. A single name is separated by commas. -/
def separator (spec : String) : Char :=
  (((signed spec.toList).2.dropWhile isLetter).head?).getD ','

def unsignedNotice (token : String) : String :=
  "lint types after first should be prefixed with '+' or '-' " ++
    "or they would over-ride previously set options: [" ++ token ++ "]"

def unknownNotice (name : String) : String := "lint type '" ++ name ++ "' not recognised"

/-- One token of a list of names. `first` holds for the token at the start of the list. -/
def Selection.step (catalog : Catalog) (first : Bool) (s : Selection) (token : List Char) :
    Selection :=
  if token.isEmpty then s
  else
    let (sign, name) := signed token
    if sign.isNone && !first then s.noting (unsignedNotice (String.ofList token))
    else
      match catalog.find? (String.ofList name) with
      | none => s.noting (unknownNotice (String.ofList name))
      | some bundle =>
        match sign with
        | some .plus => s.enabling bundle.categories
        | some .minus => s.disabling bundle.categories
        | none => s.cleared.enabling bundle.categories

def Selection.ofTokens (catalog : Catalog) : List (List Char) → Selection
  | [] => .unchanged
  | token :: rest =>
    rest.foldl (Selection.step catalog false) (Selection.step catalog true .unchanged token)

def Selection.parse (catalog : Catalog) (spec : String) : Selection :=
  .ofTokens catalog (pieces (separator spec) spec.toList)

end ScanSetup.Lint
