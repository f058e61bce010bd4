import ScanSetup.Configuration
import ScanSetup.Draft

set_option autoImplicit false

namespace ScanSetup

/-- A value moved into a range. -/
def limit (least most value : Int) : Int := min (max value least) most

namespace Draft

def conflict? (d : Draft) : Option ConflictError :=
  if d.settings.switches .keepAllTagged && d.settings.switches .keepAllUntagged then some .keepAll
  else if d.settings.clampStart.inverted d.settings.clampEnd then some .clampInverted
  else none

/-- The sinks of a scan. The default sinks come first, unless outputs were asked for instead of
them or a preset has replaced them. -/
def sinks (d : Draft) : Except ConflictError (List Sink) :=
  if 0 ≤ d.outputCount ∧ 0 ≤ d.addOutputCount then .error .outputModes
  else if 0 ≤ d.outputCount || d.presetOutputs then .ok d.settings.outputs
  else .ok (Preset.report.sinks ++ d.settings.outputs)

/-- The path of a scan that names none. -/
def fallback (d : Draft) (env : Environment) : String :=
  if d.settings.workingDirectory.isEmpty then env.workingDirectory
  else d.settings.workingDirectory

def configuration (d : Draft) (interactive : Bool) (paths : List PathEntry) (sinks : List Sink) :
    Configuration where
  settings :=
    { d.settings with
      threads := limit Settings.minThreads Settings.maxThreads d.settings.threads
      depth := limit Settings.minDepth Settings.maxDepth d.settings.depth
      switches := d.settings.switches.set .color (d.settings.switches .color && interactive)
      outputs := sinks }
  verbosity := d.verbosity
  paths := paths

/-- Runs all checks. The result has the notices about paths with it. -/
def close (d : Draft) (env : Environment) (interactive : Bool) :
    Except Failure (Configuration × List String) :=
  match d.conflict? with
  | some error => .error (.config (.conflict error))
  | none =>
    match PathList.collect env.access env.stdin (d.fallback env) d.positionals with
    | .error notices => .error (.config (.noValidPaths notices))
    | .ok list =>
      match d.sinks with
      | .error error => .error (.config (.conflict error))
      | .ok sinks =>
        match (d.configuration interactive list.entries sinks).checked with
        | .error failure => .error failure
        | .ok config => .ok (config, list.notices)

end Draft

end ScanSetup
