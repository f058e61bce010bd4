import ScanSetup.Number.Binary64
import ScanSetup.Text.Quoted
import ScanSetup.Text.Split

set_option autoImplicit false

namespace ScanSetup

open Text

/-- A failure that the system reports: its number and what it says. -/
structure SystemFault where
  number : Nat
  reason : String
  deriving DecidableEq, Repr

namespace SystemFault

def noEntry : SystemFault := ⟨2, "No such file or directory"⟩

def badDescriptor : SystemFault := ⟨9, "Bad file descriptor"⟩

def denied : SystemFault := ⟨13, "Permission denied"⟩

def notDirectory : SystemFault := ⟨20, "Not a directory"⟩

def isDirectory : SystemFault := ⟨21, "Is a directory"⟩

def nameTooLong : SystemFault := ⟨36, "File name too long"⟩

def tooManyLinks : SystemFault := ⟨40, "Too many levels of symbolic links"⟩

/-- The failures after which a name counts as one that denotes nothing. -/
def absences : List Nat :=
  [noEntry.number, notDirectory.number, badDescriptor.number, tooManyLinks.number]

def isAbsence (fault : SystemFault) : Bool := absences.contains fault.number

end SystemFault

inductive LookupFault
  | system (fault : SystemFault)
  /-- The name holds a NUL character. -/
  | embeddedNul
  deriving DecidableEq, Repr

/-- What an object holds. A file is its bytes as far as they can be read, and the failure behind
them if that is not to the end. -/
inductive Content
  | directory
  | file (bytes : List UInt8) (failure? : Option SystemFault)
  deriving DecidableEq, Repr

/-- An object that a path name denotes. The check for read access asks for another user than
opening it does, and opening may fail for other reasons. -/
structure Entry where
  /-- The path without links and relative parts. -/
  canonical : String
  content : Content
  readable : Bool
  openFailure? : Option SystemFault
  deriving DecidableEq, Repr

/-- The world of one resolution. -/
structure Environment where
  workingDirectory : String
  lookup : String → Except LookupFault Entry
  stdin : String
  now : Number.Binary64
  outputIsTerminal : Bool
  errorIsTerminal : Bool

def Environment.isInteractive (env : Environment) : Bool :=
  env.outputIsTerminal && env.errorIsTerminal

inductive AccessFault
  | missing
  | denied
  deriving DecidableEq, Repr

def AccessFault.message : AccessFault → String
  | .missing => "No such file or directory"
  | .denied => "Permission denied"

/-- The canonical path of a readable object. -/
def Environment.access (env : Environment) (path : String) : Except AccessFault String :=
  match env.lookup path with
  | .error _ => .error .missing
  | .ok entry => if entry.readable then .ok entry.canonical else .error .denied

/-- The leading slashes that a tidy path keeps. Exactly two stay two. -/
def leadingSlashes (cs : List Char) : List Char :=
  match cs with
  | '/' :: '/' :: '/' :: _ => ['/']
  | '/' :: '/' :: _ => ['/', '/']
  | '/' :: _ => ['/']
  | _ => []

/-- A path without `.` parts, repeated slashes and slashes at its end; nothing becomes `.`. -/
def tidyPath (path : String) : String :=
  let parts := (pieces '/' path.toList).filter fun part => part != [] && part != ['.']
  match leadingSlashes path.toList ++ ['/'].intercalate parts with
  | [] => "."
  | cs => String.ofList cs

/-- A failure with its number, its reason, and the path it applies to. -/
def SystemFault.message (fault : SystemFault) (path? : Option String) : String :=
  let place :=
    match path? with
    | some path => ": " ++ quoted path
    | none => ""
  "[Errno " ++ toString fault.number ++ "] " ++ fault.reason ++ place

/-- A file that was opened: its bytes, and the failure behind them. -/
structure Opened where
  bytes : List UInt8
  failure? : Option SystemFault

def Environment.openFile (env : Environment) (path : String) : Except LookupFault Opened :=
  match env.lookup path with
  | .error fault => .error fault
  | .ok entry =>
    match entry.openFailure?, entry.content with
    | some fault, _ => .error (.system fault)
    | none, .directory => .error (.system .isDirectory)
    | none, .file bytes failure? => .ok ⟨bytes, failure?⟩

/-- A path names an existing file. Failures other than absences are passed on. -/
def Environment.isFile (env : Environment) (path : String) : Except SystemFault Bool :=
  match env.lookup path with
  | .error (.system fault) => if fault.isAbsence then .ok false else .error fault
  | .error .embeddedNul => .ok false
  | .ok entry =>
    match entry.content with
    | .directory => .ok false
    | .file _ _ => .ok true

end ScanSetup
