import ScanSetup.Environment
import ScanSetup.Text.Character

set_option autoImplicit false

namespace ScanSetup

open Text

/-- A canonical path. Of equal files those under preferred paths are kept. -/
structure PathEntry where
  path : String
  isPreferred : Bool
  deriving DecidableEq, Repr

/-- The argument that changes whether the paths behind it are preferred. -/
def preferredToggle : String := "//"

/-- The argument that stands for the paths on standard input. -/
def stdinMark : String := "-"

/-- The paths on standard input, one a line. -/
def stdinPaths (stdin : String) : List String :=
  let stripped := (lines stdin.toList).map (dropTrailing fun c => c == '\r' || c == '\n')
  (stripped.filter (!·.isEmpty)).map String.ofList

/-- Paths that were collected, and notices about those that were not. -/
structure PathList where
  entries : List PathEntry
  notices : List String
  failed : Bool
  deriving DecidableEq, Repr

namespace PathList

def empty : PathList := ⟨[], [], false⟩

def inaccessibleNotice (path : String) (fault : AccessFault) : String :=
  "Can't open directory or file \"" ++ path ++ "\": " ++ fault.message

def emptyStdinNotice : String := "No readable paths were read from standard input."

def failing (list : PathList) (notice : String) : PathList :=
  { list with notices := list.notices ++ [notice], failed := true }

/-- Adds one path, or a notice if it is not accessible. -/
def add (access : String → Except AccessFault String) (isPreferred : Bool) (list : PathList)
    (path : String) : PathList :=
  match access path with
  | .ok canonical => { list with entries := list.entries ++ [⟨canonical, isPreferred⟩] }
  | .error fault => list.failing (inaccessibleNotice path fault)

/-- Adds the paths of standard input; none that is accessible is a failure. -/
def addAll (access : String → Except AccessFault String) (isPreferred : Bool) (list : PathList)
    (paths : List String) : PathList :=
  let added := paths.foldl (add access isPreferred) list
  if added.entries.length = list.entries.length then added.failing emptyStdinNotice else added

/-- Adds the paths of all arguments. `waiting` holds the paths on standard input until they are
asked for; then none are left. -/
def addArguments (access : String → Except AccessFault String) (isPreferred : Bool)
    (waiting : List String) (list : PathList) : List String → PathList × Bool
  | [] => (list, isPreferred)
  | argument :: rest =>
    if argument == preferredToggle then addArguments access (!isPreferred) waiting list rest
    else if argument == stdinMark then
      addArguments access isPreferred [] (list.addAll access isPreferred waiting) rest
    else addArguments access isPreferred waiting (list.add access isPreferred argument) rest

/-- Collects the paths of all arguments. Without any, `fallback` is the only path. The error holds
the notices if there is no path at all. -/
def collect (access : String → Except AccessFault String) (stdin fallback : String)
    (arguments : List String) : Except (List String) PathList :=
  let (list, isPreferred) := addArguments access false (stdinPaths stdin) .empty arguments
  if !list.entries.isEmpty then .ok list
  else if list.failed then .error list.notices
  else
    let list := list.add access isPreferred fallback
    if list.entries.isEmpty then .error list.notices else .ok list

end PathList

end ScanSetup
