import ScanSetup.Options.Table
import ScanSetup.PathList
import ScanSetup.Token

set_option autoImplicit false

namespace ScanSetup

open Options

/-- The questions of a command line. -/
structure Survey where
  /-- Paths whose objects are asked for. -/
  paths : List String
  /-- Files that are read. -/
  files : List String
  readsStdin : Bool
  deriving DecidableEq, Repr

namespace Survey

def empty : Survey := ⟨[], [], false⟩

def union (a b : Survey) : Survey :=
  ⟨a.paths ++ b.paths, a.files ++ b.files, a.readsStdin || b.readsStdin⟩

def ofToken : Token Effect → Survey
  | .path value => if value == stdinMark then ⟨[], [], true⟩ else ⟨[value], [], false⟩
  | .option spec value _ =>
    match spec.meaning with
    | .cache => ⟨[tidyPath value], [], false⟩
    | .newerThanStamp => ⟨[], [tidyPath value], false⟩
    | _ => empty

/-- The questions of a command line, beside those about the paths on standard input. -/
def ofArguments (arguments : List String) : Survey :=
  ((tokenize schema arguments).list.map ofToken).foldr union empty

end Survey

end ScanSetup
