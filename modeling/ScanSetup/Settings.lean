import ScanSetup.Checksum
import ScanSetup.Clamp
import ScanSetup.Lint.Selection
import ScanSetup.Output
import ScanSetup.Verbosity

set_option autoImplicit false

namespace ScanSetup

inductive Switch
  | followLinks
  | seeSymlinks
  | samePartition
  | ignoreHidden
  | findHardlinkedDupes
  | matchBasename
  | matchWithExtension
  | matchWithoutExtension
  | keepAllTagged
  | keepAllUntagged
  | mustMatchTagged
  | mustMatchUntagged
  | readChecksumFromXattr
  | writeChecksumToXattr
  | writeUnfinished
  | color
  deriving DecidableEq, Repr

namespace Switch

def all : List Switch :=
  [.followLinks, .seeSymlinks, .samePartition, .ignoreHidden, .findHardlinkedDupes,
    .matchBasename, .matchWithExtension, .matchWithoutExtension, .keepAllTagged,
    .keepAllUntagged, .mustMatchTagged, .mustMatchUntagged, .readChecksumFromXattr,
    .writeChecksumToXattr, .writeUnfinished, .color]

def name : Switch → String
  | followLinks => "follow_links"
  | seeSymlinks => "see_symlinks"
  | samePartition => "same_partition"
  | ignoreHidden => "ignore_hidden"
  | findHardlinkedDupes => "find_hardlinked_dupes"
  | matchBasename => "match_basename"
  | matchWithExtension => "match_with_extension"
  | matchWithoutExtension => "match_without_extension"
  | keepAllTagged => "keep_all_tagged"
  | keepAllUntagged => "keep_all_untagged"
  | mustMatchTagged => "must_match_tagged"
  | mustMatchUntagged => "must_match_untagged"
  | readChecksumFromXattr => "read_checksum_from_xattr"
  | writeChecksumToXattr => "write_checksum_to_xattr"
  | writeUnfinished => "write_unfinished"
  | color => "color"

/-- What holds before any option. -/
def default : Switch → Bool
  | seeSymlinks => true
  | ignoreHidden => true
  | color => true
  | _ => false

end Switch

abbrev Switches := Switch → Bool

def Switches.set (switches : Switches) (switch : Switch) (on : Bool) : Switches :=
  fun other => if other = switch then on else switches other

/-- Files that were not modified since `minMtime` are skipped if the filter is enabled. -/
structure TimeFilter where
  enabled : Bool
  minMtime : Int
  deriving DecidableEq, Repr

def TimeFilter.off : TimeFilter := ⟨false, 0⟩

structure Settings where
  threads : Int
  depth : Int
  minSize : Int
  maxSize : Int
  limitsSpecified : Bool
  switches : Switches
  lint : Lint.Categories
  checksum : Checksum
  paranoia : Int
  paranoidMem : Int
  sortCriteria : String
  clampStart : Clamp
  clampEnd : Clamp
  timeFilter : TimeFilter
  outputs : List Sink
  outputConfig : List Override
  caches : List String
  workingDirectory : String
  commandLine : String

namespace Settings

/-- The longest path of a system, which bounds the depth of a traversal. -/
def longestPath : Nat := 4096

/-- The greatest depth: every directory name and its separator take two bytes at least. -/
def maxDepth : Int := longestPath / 2 + 1

def minDepth : Int := 1

def maxThreads : Int := 128

def minThreads : Int := 1

/-- The settings before any option. -/
def default : Settings where
  threads := 16
  depth := longestPath / 2
  minSize := 0
  maxSize := Size.greatest
  limitsSpecified := false
  switches := Switch.default
  lint := .ofList [.badIds, .badLinks, .emptyDirs, .emptyFiles, .duplicates]
  checksum := .spooky
  paranoia := 0
  paranoidMem := 256 * 1024 * 1024
  sortCriteria := "m"
  clampStart := .fileStart
  clampEnd := .fileEnd
  timeFilter := .off
  outputs := []
  outputConfig := []
  caches := []
  workingDirectory := ""
  commandLine := ""

def withSwitch (s : Settings) (switch : Switch) (on : Bool) : Settings :=
  { s with switches := s.switches.set switch on }

end Settings

end ScanSetup
