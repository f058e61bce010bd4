import ScanSetup.Options.Effect
import ScanSetup.Options.Schema

set_option autoImplicit false

namespace ScanSetup.Options

def valued (long short metavar help : String) (effect : Effect) : Spec Effect :=
  ⟨long, some short, true, help, some metavar, effect⟩

def flag (long short help : String) (effect : Effect) : Spec Effect :=
  ⟨long, some short, false, help, none, effect⟩

/-- An option without a value or a short name. -/
def longFlag (long help : String) (effect : Effect) : Spec Effect :=
  ⟨long, none, false, help, none, effect⟩

/-- All options, in the order in which they are listed. -/
def table : List (Spec Effect) := [
  valued "threads" "t" "N" "Specify max number of threads" .threads,
  valued "max-depth" "d" "N" "Specify max traversal depth" .maxDepth,
  valued "sortcriteria" "S" "[amp]" "Original criteria" .sortCriteria,
  valued "types" "T" "T" "Specify lint types" .types,
  valued "size" "s" "m-M" "Specify size limits" .sizeLimits,
  valued "algorithm" "a" "A" "Choose hash algorithm" .algorithm,
  valued "output" "o" "FMT[:PATH]" "Add output (override default)" (.output .override),
  valued "add-output" "O" "FMT[:PATH]" "Add output (add to defaults)" (.output .add),
  valued "max-paranoid-mem" "u" "S" "Memory budget for paranoid hashing" .paranoidMem,
  valued "newer-than-stamp" "n" "PATH" "Newer than stamp file" .newerThanStamp,
  valued "newer-than" "N" "STAMP" "Newer than timestamp" .newerThan,
  valued "clamp-low" "q" "P" "Limit lower reading barrier" .clampLow,
  valued "clamp-top" "Q" "P" "Limit upper reading barrier" .clampTop,
  valued "config" "c" "FMT:K[=V]" "Configure a formatter" .configure,
  valued "cache" "C" "PATH" "Add json cache file" .cache,
  flag "progress" "g" "Enable progressbar" (.preset .progress),
  flag "no-progress" "G" "Disable progressbar" (.preset .report),
  flag "loud" "v" "Be more verbose (-vvv for more)" (.verbosity 1),
  flag "quiet" "V" "Be less verbose (-VVV for less)" (.verbosity (-1)),
  flag "paranoid" "p" "Use more paranoid hashing" (.paranoia 1),
  flag "less-paranoid" "P" "Use less paranoid hashing" (.paranoia (-1)),
  flag "merge-directories" "D" "Find duplicate directories" .mergeDirectories,
  flag "with-color" "w" "Be colorful" (.switch .color true),
  flag "no-with-color" "W" "Be not that colorful" (.switch .color false),
  flag "hidden" "r" "Find hidden files" (.switch .ignoreHidden false),
  flag "no-hidden" "R" "Ignore hidden files" (.switch .ignoreHidden true),
  flag "followlinks" "f" "Follow symlinks" (.switch .followLinks true),
  flag "no-followlinks" "F" "Ignore symlinks" (.switch .followLinks false),
  flag "see-symlinks" "@" "Treat symlinks as regular files" (.switch .seeSymlinks true),
  flag "crossdev" "x" "Do not cross mountpoints" (.switch .samePartition true),
  flag "no-crossdev" "X" "Cross mountpoints" (.switch .samePartition false),
  flag "keep-all-tagged" "k" "Keep all tagged files" (.switch .keepAllTagged true),
  flag "keep-all-untagged" "K" "Keep all untagged files" (.switch .keepAllUntagged true),
  flag "must-match-tagged" "m" "Must have twin in tagged dir" (.switch .mustMatchTagged true),
  flag "must-match-untagged" "M" "Must have twin in untagged dir" (.switch .mustMatchUntagged true),
  flag "hardlinked" "l" "Report hardlinks as duplicates" (.switch .findHardlinkedDupes true),
  flag "no-hardlinked" "L" "Ignore hardlinks" (.switch .findHardlinkedDupes false),
  flag "match-basename" "b" "Only find twins with same basename" (.switch .matchBasename true),
  flag "no-match-basename" "B" "Do not require the same basename" (.switch .matchBasename false),
  flag "match-extension" "e" "Only find twins with same extension"
    (.switch .matchWithExtension true),
  flag "no-match-extension" "E" "Do not require the same extension"
    (.switch .matchWithExtension false),
  flag "match-without-extension" "i" "Only find twins with same basename minus extension"
    (.switch .matchWithoutExtension true),
  flag "no-match-without-extension" "I" "Do not require the same basename minus extension"
    (.switch .matchWithoutExtension false),
  longFlag "xattr-write" "Cache checksum in file attributes" (.switch .writeChecksumToXattr true),
  longFlag "no-xattr-write" "Do not cache checksums in file attributes"
    (.switch .writeChecksumToXattr false),
  longFlag "xattr-read" "Read cached checksums from file attributes"
    (.switch .readChecksumFromXattr true),
  longFlag "no-xattr-read" "Ignore checksums cached in file attributes"
    (.switch .readChecksumFromXattr false),
  flag "write-unfinished" "U" "Output unfinished checksums" (.switch .writeUnfinished true)]

def schema : Schema Effect := ⟨table, by decide +kernel⟩

end ScanSetup.Options
