import ScanSetup.Settings
import ScanSetup.Number.Binary64

set_option autoImplicit false

namespace ScanSetup

/-- The settings so far. The two output counters are below zero until their option is used. -/
structure Draft where
  settings : Settings
  verbosityCount : Int
  outputCount : Int
  addOutputCount : Int
  presetOutputs : Bool
  referenceTime : Number.Binary64
  positionals : List String
  notices : List String

namespace Draft

/-- The value of a counter that was never used. -/
def unused : Int := -1

/-- A directory with a slash at its end. -/
def asDirectory (path : String) : String :=
  if path.isEmpty || path.toList.getLast? == some '/' then path else path ++ "/"

def programName : String := "dupelint"

/-- The draft before the first argument. -/
def initial (arguments : List String) (now : Number.Binary64) (directory : String) : Draft where
  settings :=
    { Settings.default with
      workingDirectory := asDirectory directory
      commandLine := " ".intercalate (programName :: arguments) }
  verbosityCount := Verbosity.defaultCount
  outputCount := unused
  addOutputCount := unused
  presetOutputs := false
  referenceTime := now
  positionals := []
  notices := []

def verbosity (d : Draft) : Verbosity := .ofCount d.verbosityCount

/-- Notes a recoverable problem. -/
def noting (d : Draft) (notice : String) : Draft := { d with notices := d.notices ++ [notice] }

def update (d : Draft) (change : Settings → Settings) : Draft :=
  { d with settings := change d.settings }

end Draft

end ScanSetup
