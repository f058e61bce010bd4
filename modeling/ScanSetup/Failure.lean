import ScanSetup.Clamp
import ScanSetup.Environment
import ScanSetup.Time.Instant
import ScanSetup.Time.Stamp

set_option autoImplicit false

namespace ScanSetup

/-- An argument that does not fit the options. -/
inductive UsageError
  | unknownLong (name : String)
  | unknownShort (name : Char)
  | unexpectedValue (name : String)
  /-- The option as it was written has no value behind it. -/
  | missingValue (written : String)
  | notAnInteger (option value : String)
  deriving DecidableEq, Repr

def UsageError.message : UsageError → String
  | .unknownLong name => "Unknown option --" ++ name
  | .unknownShort name => "Unknown option -" ++ String.singleton name
  | .unexpectedValue name => "Option --" ++ name ++ " does not take a value"
  | .missingValue written => "Missing argument for " ++ written
  | .notAnInteger option value => "Cannot parse integer value '" ++ value ++ "' for --" ++ option

/-- Values that contradict each other or are not supported. -/
inductive ConflictError
  | unknownAlgorithm (value : String)
  | paranoiaOutOfRange
  | noCache (path : String)
  | keepAll
  | clampInverted
  | outputModes
  deriving DecidableEq, Repr

def ConflictError.message : ConflictError → String
  | .unknownAlgorithm value => "Unknown hash algorithm: '" ++ value ++ "'"
  | .paranoiaOutOfRange => "Only up to -ppp or down to -P flags allowed."
  | .noCache path => "There is no cache at `" ++ path ++ "'"
  | .keepAll => "can't specify both --keep-all-tagged and --keep-all-untagged"
  | .clampInverted => "-q (--clamp-low) should be lower than -Q (--clamp-top)!"
  | .outputModes => "Specifying both -o and -O is not allowed."

/-- The failures that a user can expect. -/
inductive ConfigError
  | size (error : Size.Error)
  | clamp (error : Clamp.Error)
  | unparsableTime (spec : String)
  | usage (error : UsageError)
  | conflict (error : ConflictError)
  /-- Every path was inaccessible; the notices say why. -/
  | noValidPaths (notices : List String)
  deriving DecidableEq, Repr

def unparsableTimeMessage (spec : String) : String := "Unable to parse time spec \"" ++ spec ++ "\""

def ConfigError.message : ConfigError → String
  | .size error => error.message
  | .clamp error => error.message
  | .unparsableTime spec => unparsableTimeMessage spec
  | .usage error => error.message
  | .conflict error => error.message
  | .noValidPaths _ => "No valid paths given."

/-- The failures of limits that no option announces. -/
inductive Fault
  /-- A text that should be a whole number is not read as one. -/
  | plain (fault : Time.PlainFault)
  /-- A whole number has too many digits for a text. -/
  | numberTooLong
  | embeddedNul
  /-- The system does not say whether there is an object at a path. -/
  | lookup (path : String) (fault : SystemFault)
  /-- A product exceeds the exponents of decimal numbers. -/
  | overflow
  | instant (fault : Time.InstantFault)
  deriving DecidableEq, Repr

/-- The characters of a malformed number that a message quotes at most. -/
def quotedNumberWidth : Nat := 200

def plainMessage : Time.PlainFault → String
  | .tooManyDigits count =>
    "Exceeds the limit (" ++ toString Number.maxIntegerDigits ++
      " digits) for integer string conversion: value has " ++ toString count ++
      " digits; use sys.set_int_max_str_digits() to increase the limit"
  | .separated written =>
    "invalid literal for int() with base 10: " ++
      String.ofList ((Text.quotedChars written.toList).take quotedNumberWidth)

def Fault.message : Fault → String
  | .plain fault => plainMessage fault
  | .numberTooLong =>
    "Exceeds the limit (" ++ toString Number.maxIntegerDigits ++
      " digits) for integer string conversion; " ++
      "use sys.set_int_max_str_digits() to increase the limit"
  | .embeddedNul => "embedded null byte"
  | .lookup path fault => fault.message (some path)
  | .overflow => "[<class 'decimal.Overflow'>]"
  | .instant fault => fault.message

inductive IssueKind
  | belowMinimum
  | aboveMaximum
  | missing
  | unknownField
  | unknownName
  | noTag
  | unknownTag
  | frozen
  | wrongType
  /-- A rule about several fields is broken. -/
  | invariant (rule : String)
  deriving DecidableEq, Repr

/-- A broken rule and the path of the field that breaks it; rules about several fields have an
empty path. -/
structure Issue where
  kind : IssueKind
  path : List String
  deriving DecidableEq, Repr

inductive Failure
  | config (error : ConfigError)
  | fault (fault : Fault)
  | invalid (issues : List Issue)
  deriving DecidableEq, Repr

def Failure.message : Failure → String
  | .config error => error.message
  | .fault cause => cause.message
  | .invalid _ => "The configuration breaks its rules."

end ScanSetup
