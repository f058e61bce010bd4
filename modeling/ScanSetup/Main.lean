import ScanSetup.CommandLine
import ScanSetup.Survey
import Std.Time.DateTime.Timestamp

set_option autoImplicit false

namespace ScanSetup

def SystemFault.ofError : IO.Error → SystemFault
  | .alreadyExists _ code reason => ⟨code.toNat, reason⟩
  | .otherError code reason => ⟨code.toNat, reason⟩
  | .resourceBusy code reason => ⟨code.toNat, reason⟩
  | .resourceVanished code reason => ⟨code.toNat, reason⟩
  | .unsupportedOperation code reason => ⟨code.toNat, reason⟩
  | .hardwareFault code reason => ⟨code.toNat, reason⟩
  | .unsatisfiedConstraints code reason => ⟨code.toNat, reason⟩
  | .illegalOperation code reason => ⟨code.toNat, reason⟩
  | .protocolError code reason => ⟨code.toNat, reason⟩
  | .timeExpired code reason => ⟨code.toNat, reason⟩
  | .interrupted _ code reason => ⟨code.toNat, reason⟩
  | .noFileOrDirectory _ code reason => ⟨code.toNat, reason⟩
  | .invalidArgument _ code reason => ⟨code.toNat, reason⟩
  | .permissionDenied _ code reason => ⟨code.toNat, reason⟩
  | .resourceExhausted _ code reason => ⟨code.toNat, reason⟩
  | .inappropriateType _ code reason => ⟨code.toNat, reason⟩
  | .noSuchThing _ code reason => ⟨code.toNat, reason⟩
  | .unexpectedEof => ⟨0, "unexpected end of file"⟩
  | .userError reason => ⟨0, reason⟩

def failure? {α : Type} (action : IO α) : IO (Option SystemFault) := do
  try
    let _ ← action
    return none
  catch error => return some (.ofError error)

/-- The bytes of a file as far as they can be read, behind those read before, and the failure
behind them. -/
partial def readBytes (handle : IO.FS.Handle) (before : ByteArray) :
    IO (ByteArray × Option SystemFault) := do
  try
    let more ← handle.read 65536
    if more.isEmpty then return (before, none) else readBytes handle (before ++ more)
  catch error => return (before, some (.ofError error))

/-- The bytes of a file if they are asked for, and the failure of opening it. -/
def readContent (path : String) (reads : Bool) : IO (Content × Option SystemFault) := do
  try
    let handle ← IO.FS.Handle.mk path .read
    let (bytes, failure?) ← if reads then readBytes handle .empty else pure (.empty, none)
    return (.file bytes.toList failure?, none)
  catch error => return (.file [] none, some (.ofError error))

/-- The object at a path, with its bytes if it is a file and they are asked for. -/
def observe (path : String) (reads : Bool) : IO (Except LookupFault Entry) := do
  if path.contains '\x00' then return .error .embeddedNul
  try
    let canonical ← IO.FS.realPath path
    if ← canonical.isDir then
      let openFailure? ← failure? canonical.readDir
      return .ok ⟨canonical.toString, .directory, openFailure?.isNone, openFailure?⟩
    else
      let (content, openFailure?) ← readContent canonical.toString reads
      return .ok ⟨canonical.toString, content, openFailure?.isNone, openFailure?⟩
  catch _ =>
    let openFailure? ← failure? (IO.FS.Handle.mk path .read)
    return .error (.system (openFailure?.getD .noEntry))

def observeAll (reads : Bool) (paths : List String) :
    IO (List (String × Except LookupFault Entry)) :=
  paths.mapM fun path => return (path, ← observe path reads)

/-- Everything up to the end of a stream, behind what was read before. -/
partial def readToEnd (stream : IO.FS.Stream) (before : String) : IO String := do
  let line ← stream.getLine
  if line.isEmpty then return before else readToEnd stream (before ++ line)

def clock : IO Number.Binary64 := do
  let nanoseconds := (← Std.Time.Timestamp.now).toNanosecondsSinceUnixEpoch.toInt
  return .ofQuotient (nanoseconds < 0) (nanoseconds.natAbs * Number.Binary64.one) 1000000000

/-- The world as far as a survey asks for it. -/
def look (survey : Survey) : IO Environment := do
  let directory := (← IO.currentDir).toString
  let stdin ← if survey.readsStdin then readToEnd (← IO.getStdin) "" else pure ""
  let listed := stdinPaths (String.ofList (Text.normalizeLineEnds stdin.toList))
  let files ← observeAll true survey.files
  let paths ← observeAll false (Draft.asDirectory directory :: survey.paths ++ listed)
  return {
    workingDirectory := directory
    lookup := fun path => ((files ++ paths).lookup path).getD (.error (.system .noEntry))
    stdin := stdin
    now := ← clock
    outputIsTerminal := ← (← IO.getStdout).isTty
    errorIsTerminal := ← (← IO.getStderr).isTty }

def Command.survey : Command → Survey
  | .resolve arguments => .ofArguments arguments
  | _ => .empty

/-- Runs the program in the world and yields its code. -/
def runInWorld (arguments : List String) : IO UInt32 := do
  let ending := runProgram (← look (Command.parse arguments).survey) arguments
  let output ← IO.getStdout
  output.putStr ending.transcript.output
  output.flush
  let error ← IO.getStderr
  error.putStr ending.transcript.error
  match ending.crash? with
  | some failure => error.putStrLn failure.message
  | none => pure ()
  return ending.code.toUInt32

end ScanSetup

def main (arguments : List String) : IO UInt32 := ScanSetup.runInWorld arguments
