import ScanSetup.Failure
import ScanSetup.PathList
import ScanSetup.Settings

set_option autoImplicit false

namespace ScanSetup

structure Configuration where
  settings : Settings
  verbosity : Verbosity
  paths : List PathEntry

namespace Configuration

def default : Configuration := ⟨.default, .warning, []⟩

def sizesInverted : IssueKind := .invariant "min_size must not exceed max_size"

def keepAllClash : IssueKind :=
  .invariant "keep_all_tagged and keep_all_untagged are mutually exclusive"

def brokenRule? (c : Configuration) : Option Issue :=
  if c.settings.maxSize < c.settings.minSize then some ⟨sizesInverted, []⟩
  else if c.settings.switches .keepAllTagged && c.settings.switches .keepAllUntagged then
    some ⟨keepAllClash, []⟩
  else none

/-- The configuration, if no rule about several fields is broken. -/
def checked (c : Configuration) : Except Failure Configuration :=
  match c.brokenRule? with
  | some issue => .error (.invalid [issue])
  | none => .ok c

/-- The paths whose files are kept. -/
def preferredPaths (c : Configuration) : List PathEntry := c.paths.filter (·.isPreferred)

/-- Configurations are not changed: an assignment to a field is an error. -/
def assign (field : String) : Issue := ⟨.frozen, [field]⟩

end Configuration

end ScanSetup
