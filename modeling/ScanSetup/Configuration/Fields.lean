import ScanSetup.Configuration
import ScanSetup.Draft
import ScanSetup.Record

set_option autoImplicit false

namespace ScanSetup

def Clamp.toValue : Clamp → Value
  | .absolute offset => .record [("kind", .text "absolute"), ("offset", .integer offset)]
  | .fractional ratio => .record [("kind", .text "fractional"), ("ratio", .real ratio)]

def TimeFilter.toValue (f : TimeFilter) : Value :=
  .record [("enabled", .bool f.enabled), ("min_mtime", .integer f.minMtime)]

def Sink.toValue (s : Sink) : Value :=
  .record [("formatter", .text s.formatter), ("target", .text s.target)]

def Override.toValue (o : Override) : Value :=
  .record [("formatter", .text o.formatter), ("key", .text o.key), ("value", .text o.value)]

def PathEntry.toValue (e : PathEntry) : Value :=
  .record [("path", .text e.path), ("is_preferred", .bool e.isPreferred)]

/-- The fields that drafts and configurations share. -/
def Settings.fields (s : Settings) : List (String × Value) :=
  [("threads", .integer s.threads), ("depth", .integer s.depth), ("min_size", .integer s.minSize),
    ("max_size", .integer s.maxSize), ("limits_specified", .bool s.limitsSpecified)] ++
  Switch.all.map (fun switch => (switch.name, .bool (s.switches switch))) ++
  Lint.Category.all.map (fun category => (category.name, .bool (s.lint category))) ++
  [("checksum_type", .text s.checksum.name), ("paranoia", .integer s.paranoia),
    ("paranoid_mem", .integer s.paranoidMem), ("sort_criteria", .text s.sortCriteria),
    ("clamp_start", s.clampStart.toValue), ("clamp_end", s.clampEnd.toValue),
    ("time_filter", s.timeFilter.toValue), ("outputs", .list (s.outputs.map Sink.toValue)),
    ("output_config", .list (s.outputConfig.map Override.toValue)), ("caches", .texts s.caches),
    ("working_directory", .text s.workingDirectory), ("command_line", .text s.commandLine)]

def Configuration.fields (c : Configuration) : List (String × Value) :=
  c.settings.fields ++
    [("verbosity", .text c.verbosity.name), ("paths", .list (c.paths.map PathEntry.toValue))]

def Configuration.toValue (c : Configuration) : Value := .record c.fields

/-- All fields of a draft, and the level that its counter stands for. -/
def Draft.fields (d : Draft) : List (String × Value) :=
  d.settings.fields ++
    [("verbosity_count", .integer d.verbosityCount), ("verbosity", .text d.verbosity.name),
      ("output_count", .integer d.outputCount), ("add_output_count", .integer d.addOutputCount),
      ("preset_outputs", .bool d.presetOutputs), ("reference_time", .real d.referenceTime),
      ("positionals", .texts d.positionals), ("notices", .texts d.notices)]

def Configuration.render (c : Configuration) : Except Failure String :=
  match c.toValue.render? 0 with
  | some text => .ok text
  | none => .error (.fault .numberTooLong)

end ScanSetup
