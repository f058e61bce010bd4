import ScanSetup.Command
import ScanSetup.Configuration.Fields
import ScanSetup.Listing.Options
import ScanSetup.Resolution
import ScanSetup.Terminal.Message

set_option autoImplicit false

namespace ScanSetup

open Terminal

def LogEntry.show (env : Environment) : LogEntry → Transcript
  | .warning text => message env .warning false none text
  | .trace text => Terminal.trace env true text
  | .failure text => message env .failure false none text

/-- Resolves a command line and renders the configuration. An announced failure is logged. -/
def resolveArguments (env : Environment) (arguments : List String) : Run String :=
  let run := build env env.isInteractive arguments
  match run.outcome with
  | .ok config => ⟨run.log, config.render⟩
  | .error failure =>
    match failure with
    | .config error => ⟨run.log ++ [.failure error.message], .error failure⟩
    | _ => ⟨run.log, .error failure⟩

/-- A capability of the program. -/
structure Feature where
  name : String
  enabled : Bool
  deriving DecidableEq, Repr

/-- A capability with its sign, green or red if coloured. -/
def Feature.text (env : Environment) (colored : Bool) (feature : Feature) : String :=
  if feature.enabled then colorize env ("+" ++ feature.name) "green" colored
  else colorize env ("-" ++ feature.name) "red" colored

def features : List Feature :=
  [⟨"xattr", true⟩, ⟨"sha512", true⟩, ⟨"bigfiles", true⟩, ⟨"json-cache", true⟩]

def version : String := "0.1.0"

/-- How a command ended: what it wrote, its code, and the failure that it did not announce. -/
structure Ending where
  code : Nat
  crash? : Option Failure
  transcript : Transcript

namespace Command

def usage : String := "Usage: dupelint [--help] resolve|options|version [ARGUMENT]..."

def runResolve (env : Environment) (arguments : List String) : Ending :=
  let run := resolveArguments env arguments
  let shown := Transcript.join (run.log.map (·.show env))
  match run.outcome with
  | .ok text => ⟨0, none, shown.append (echo env text)⟩
  | .error (.config _) => ⟨1, none, shown⟩
  | .error failure => ⟨1, some failure, shown⟩

def optionsText : String := String.join ((Listing.optionsListing Options.schema).map (· ++ "\n"))

def runVersion (env : Environment) : Transcript :=
  (message env .info false none ("dupelint " ++ ScanSetup.version)).append
    (echo env ("features: " ++ " ".intercalate (features.map (·.text env true))))

def run (env : Environment) : Command → Ending
  | .resolve arguments => runResolve env arguments
  | .options => ⟨0, none, ⟨optionsText, ""⟩⟩
  | .version => ⟨0, none, runVersion env⟩
  | .help => ⟨0, none, ⟨usage ++ "\n", ""⟩⟩
  | .misuse => ⟨2, none, ⟨"", usage ++ "\n"⟩⟩

end Command

/-- Runs the program. Lines of standard input may end in `\r\n` or `\r`, too. -/
def runProgram (env : Environment) (arguments : List String) : Ending :=
  let stdin := String.ofList (Text.normalizeLineEnds env.stdin.toList)
  (Command.parse arguments).run { env with stdin := stdin }

end ScanSetup
