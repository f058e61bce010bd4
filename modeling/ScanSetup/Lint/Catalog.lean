set_option autoImplicit false

namespace ScanSetup.Lint

inductive Category
  | badIds
  | badLinks
  | emptyDirs
  | emptyFiles
  | nonStripped
  | duplicates
  | duplicateDirs
  deriving DecidableEq, Repr

def Category.all : List Category :=
  [.badIds, .badLinks, .emptyDirs, .emptyFiles, .nonStripped, .duplicates, .duplicateDirs]

def Category.name : Category → String
  | .badIds => "find_bad_ids"
  | .badLinks => "find_bad_links"
  | .emptyDirs => "find_empty_dirs"
  | .emptyFiles => "list_empty_files"
  | .nonStripped => "find_nonstripped"
  | .duplicates => "search_duplicates"
  | .duplicateDirs => "merge_directories"

/-- A set of kinds. -/
abbrev Categories := Category → Bool

namespace Categories

def ofList (list : List Category) : Categories := fun c => list.contains c

def empty : Categories := fun _ => false

def full : Categories := fun _ => true

def union (a b : Categories) : Categories := fun c => a c || b c

def diff (a b : Categories) : Categories := fun c => a c && !b c

def toList (s : Categories) : List Category := Category.all.filter s

end Categories

/-- A bundle of categories and the names it goes by. -/
structure Bundle where
  names : List String
  categories : Categories

/-- A catalog of bundles. Of two bundles with one name the first counts. -/
abbrev Catalog := List Bundle

/-- The bundle with a name, which is compared as it stands. -/
def Catalog.find? (catalog : Catalog) (name : String) : Option Bundle :=
  List.find? (fun bundle => bundle.names.contains name) catalog

def catalog : Catalog := [
  ⟨["all"], .full⟩,
  ⟨["minimal"], .ofList [.badIds, .badLinks, .duplicates]⟩,
  ⟨["minimaldirs"], .ofList [.badIds, .badLinks, .duplicateDirs]⟩,
  ⟨["defaults"], .ofList [.badIds, .badLinks, .emptyDirs, .emptyFiles, .duplicates]⟩,
  ⟨["none"], .empty⟩,
  ⟨["badids", "bi"], .ofList [.badIds]⟩,
  ⟨["badlinks", "bl"], .ofList [.badLinks]⟩,
  ⟨["emptydirs", "ed"], .ofList [.emptyDirs]⟩,
  ⟨["emptyfiles", "ef"], .ofList [.emptyFiles]⟩,
  ⟨["nonstripped", "ns"], .ofList [.nonStripped]⟩,
  ⟨["duplicates", "df", "dupes"], .ofList [.duplicates]⟩,
  ⟨["duplicatedirs", "dd", "dupedirs"], .ofList [.duplicateDirs]⟩]

end ScanSetup.Lint
