import ScanSetup.Token

set_option autoImplicit false

namespace ScanSetup

inductive Command
  /-- Resolve arguments into a configuration. -/
  | resolve (arguments : List String)
  /-- List all options. -/
  | options
  /-- Name the version and the features. -/
  | version
  /-- Say how the program is called. -/
  | help
  /-- The arguments do not fit. -/
  | misuse
  deriving DecidableEq, Repr

namespace Command

def helpFlag : String := "--help"

/-- A command that knows the flags `flags`, the one for help and no parameters. An unknown option
is an error even beside the flag for help; a parameter is one only without it. -/
def plain (command : Command) (flags : List String) (wantsHelp extra : Bool) :
    List String → Command
  | [] => if wantsHelp then .help else if extra then .misuse else command
  | argument :: rest =>
    if argument == endOfOptions then
      if wantsHelp then .help else if extra || !rest.isEmpty then .misuse else command
    else if argument == helpFlag then plain command flags true extra rest
    else if flags.contains argument then plain command flags wantsHelp extra rest
    else
      match Shape.of argument with
      | .path => plain command flags wantsHelp true rest
      | _ => .misuse

/-- The command with a name. Arguments to resolve lose their first `--`. -/
def named (name : String) (arguments : List String) : Command :=
  match name with
  | "resolve" => .resolve (arguments.erase endOfOptions)
  | "options" => plain .options ["--no-color"] false false arguments
  | "version" => plain .version [] false false arguments
  | _ => if name == helpFlag then .help else .misuse

/-- The command that follows the options of the program itself, of which there is only the flag
for help. -/
def parseFrom (wantsHelp : Bool) : List String → Command
  | [] => if wantsHelp then .help else .misuse
  | argument :: rest =>
    if argument == endOfOptions then
      match wantsHelp, rest with
      | true, _ => .help
      | false, [] => .misuse
      | false, name :: arguments => named name arguments
    else if argument == helpFlag then parseFrom true rest
    else
      match Shape.of argument with
      | .path => if wantsHelp then .help else named argument rest
      | _ => .misuse

def parse (arguments : List String) : Command := parseFrom false arguments

end Command

end ScanSetup
