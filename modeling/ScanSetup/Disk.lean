import ScanSetup.Environment

set_option autoImplicit false

namespace ScanSetup

open Text

/-- The parts of a path below the root. -/
abbrev Place := List (List Char)

inductive Node
  | directory
  | file (bytes : List UInt8)
  | link (target : List Char)
  deriving DecidableEq, Repr

/-- A file system. The root is always a directory. -/
structure Disk where
  nodes : List (Place × Node)
  /-- Places where the check for read access fails. -/
  unreadable : List Place
  /-- Places where opening is denied. -/
  unopenable : List Place
  /-- Directories in which no name is looked up. -/
  unsearchable : List Place

namespace Disk

def empty : Disk := ⟨[], [], [], []⟩

/-- The object at a place; links are not followed. -/
def node? (disk : Disk) (place : Place) : Option Node :=
  if place.isEmpty then some .directory else disk.nodes.lookup place

/-- Puts an object at a place, in front of an older one. -/
def put (disk : Disk) (place : Place) (node : Node) : Disk :=
  { disk with nodes := (place, node) :: disk.nodes }

/-- The longest name of a directory entry, in bytes. -/
def maxName : Nat := 255

/-- Path names have to be shorter than this, in bytes. -/
def maxPath : Nat := 4096

/-- The links that are followed before a path is given up. -/
def maxLinks : Nat := 40

def byteLength (cs : List Char) : Nat := (cs.map Char.utf8Size).foldr (· + ·) 0

/-- The parts of a path. A slash at the end demands a directory, as the part `.` does. -/
def parts (path : List Char) : List (List Char) :=
  let named := (pieces '/' path).filter (· != [])
  if path.getLast? == some '/' then named ++ [['.']] else named

def start (here : Place) (path : List Char) : Place :=
  if path.head? == some '/' then [] else here

/-- Follows the parts of a path from a place, through at most `links` symbolic links. -/
def walk (disk : Disk) (links : Nat) (here : Place) (node : Node) (rest : List (List Char)) :
    Except LookupFault (Place × Node) :=
  match rest with
  | [] => .ok (here, node)
  | part :: rest =>
    if node != .directory then .error (.system .notDirectory)
    else if disk.unsearchable.contains here then .error (.system .denied)
    else if part == ['.'] then walk disk links here node rest
    else if part == ['.', '.'] then walk disk links here.dropLast .directory rest
    else if maxName < byteLength part then .error (.system .nameTooLong)
    else
      match disk.node? (here ++ [part]) with
      | none => .error (.system .noEntry)
      | some (.link target) =>
        match links with
        | 0 => .error (.system .tooManyLinks)
        | links + 1 =>
          if target.isEmpty then .error (.system .noEntry)
          else walk disk links (start here target) .directory (parts target ++ rest)
      | some next => walk disk links (here ++ [part]) next rest
termination_by (links, rest.length)

def resolve (disk : Disk) (here : Place) (path : List Char) :
    Except LookupFault (Place × Node) :=
  if path.contains '\x00' then .error .embeddedNul
  else if path.isEmpty then .error (.system .noEntry)
  else if maxPath ≤ byteLength path then .error (.system .nameTooLong)
  else walk disk maxLinks (start here path) .directory (parts path)

def placeText (place : Place) : String := String.ofList ('/' :: ['/'].intercalate place)

def lookup (disk : Disk) (here : Place) (path : String) : Except LookupFault Entry :=
  match disk.resolve here path.toList with
  | .error fault => .error fault
  | .ok (place, node) =>
    let content :=
      match node with
      | .file bytes => .file bytes none
      | _ => .directory
    let openFailure? := if disk.unopenable.contains place then some .denied else none
    .ok ⟨placeText place, content, !disk.unreadable.contains place, openFailure?⟩

/-- The directory at the end of a list of parts. Directories that are missing are made. -/
def ensure (disk : Disk) (here : Place) : List (List Char) → Disk × Place
  | [] => (disk, here)
  | part :: rest =>
    match disk.walk maxLinks here .directory [part] with
    | .ok (place, _) => ensure disk place rest
    | .error _ => ensure (disk.put (here ++ [part]) .directory) (here ++ [part]) rest

/-- Adds an object at a path and whatever directories it needs; `readable` holds for its target if
it is a link. -/
def place (disk : Disk) (here : Place) (path : List Char) (node : Node) (readable : Bool) : Disk :=
  let named := (parts path).filter (· != ['.'])
  let (disk, parent) := disk.ensure (start here path) named.dropLast
  let place := parent ++ named.drop (named.length - 1)
  let disk := if node == .directory && disk.node? place == some .directory then disk
    else disk.put place node
  if readable then disk
  else
    match disk.resolve here path with
    | .ok (place, _) => { disk with unreadable := place :: disk.unreadable }
    | .error _ => { disk with unreadable := place :: disk.unreadable }

end Disk

end ScanSetup
