import ScanSetup.Draft
import ScanSetup.Failure
import ScanSetup.Number.Integer
import ScanSetup.Time.StampFile

set_option autoImplicit false

namespace ScanSetup

open Text Number

/-- The two ways of asking for an output: instead of the default ones or beside them. -/
inductive OutputMode
  | override
  | add
  deriving DecidableEq, Repr

def OutputMode.flag : OutputMode → String
  | .override => "-o"
  | .add => "-O"

namespace Draft

/-- Switches the lint categories as a selection says. Merging directories needs hidden files and
hard links. -/
def applySelection (d : Draft) (selection : Lint.Selection) : Draft :=
  let changed := d.update fun s => { s with lint := selection.apply s.lint }
  let prepared :=
    if changed.settings.lint .duplicateDirs then
      changed.update fun s =>
        (s.withSwitch .ignoreHidden false).withSwitch .findHardlinkedDupes true
    else changed
  { prepared with notices := prepared.notices ++ selection.notices }

def applyLintTypes (d : Draft) (catalog : Lint.Catalog) (spec : String) : Draft :=
  d.applySelection (.parse catalog spec)

/-- Merges directories, which needs hidden files and hard links. -/
def mergeDirectories (d : Draft) : Draft :=
  d.update fun s =>
    { s with
      lint := s.lint.union (.ofList [.duplicateDirs])
      switches := (s.switches.set .findHardlinkedDupes true).set .ignoreHidden false }

def register (d : Draft) (sink : Sink) : Draft :=
  d.update fun s => { s with outputs := s.outputs ++ [sink] }

def addOverride (d : Draft) (item : Override) : Draft :=
  d.update fun s => { s with outputConfig := s.outputConfig ++ [item] }

def counter (d : Draft) : OutputMode → Int
  | .override => d.outputCount
  | .add => d.addOutputCount

def setCounter (d : Draft) (count : Int) : OutputMode → Draft
  | .override => { d with outputCount := count }
  | .add => { d with addOutputCount := count }

/-- Registers the sink that a pair describes. An unknown formatter leaves a notice; both lift the
counter of the mode from below zero. -/
def addOutput (d : Draft) (mode : OutputMode) (pair : String) : Draft :=
  let count := max (d.counter mode) 0
  let sink := Sink.parse pair
  if isFormatter sink.formatter then (d.register sink).setCounter (count + 1) mode
  else
    (d.setCounter count mode).noting ("Adding " ++ mode.flag ++ " " ++ pair ++ " as output failed.")

def replaceSinks (d : Draft) (sinks : List Sink) : Draft :=
  { d.update fun s => { s with outputs := sinks } with presetOutputs := true }

/-- Records an override; a malformed one leaves a notice. -/
def configure (d : Draft) (pair : String) : Draft :=
  match Override.parse pair with
  | .ok item => d.addOverride item
  | .error fault => d.noting (fault.message pair)

/-- Moves the level of paranoia, which may choose an algorithm. -/
def stepParanoia (d : Draft) (delta : Int) : Except Failure Draft :=
  let level := d.settings.paranoia + delta
  match paranoiaEffect? level with
  | none => .error (.config (.conflict .paranoiaOutOfRange))
  | some .keep => .ok (d.update fun s => { s with paranoia := level })
  | some (.choose algorithm) =>
    .ok (d.update fun s => { s with paranoia := level, checksum := algorithm })

/-- Filters on files newer than a point in time, which may lie in the future of the reference
time; `option` is the name that the notice about that gives. -/
def filterNewer (d : Draft) (option spec : String) : Except Failure Draft :=
  match Time.parseStamp d.referenceTime spec with
  | .error (.unparsable spec) => .error (.config (.unparsableTime spec))
  | .error (.plain fault) => .error (.fault (.plain fault))
  | .ok stamp =>
    let filtered := d.update fun s => { s with timeFilter := ⟨true, stamp.instant⟩ }
    if stamp.inFuture then
      match Time.instantText d.referenceTime with
      | .error fault => .error (.fault (.instant fault))
      | .ok now =>
        .ok (filtered.noting
          (option ++ " " ++ spec ++ " is newer than current time (" ++ now ++ ")."))
    else .ok filtered

/-- The override that keeps the notation of a stamp file. -/
def civilStamp : Override := ⟨stampFormatter, "iso8601", "true"⟩

/-- Filters on files newer than the stamp in a file, and registers the file to receive the time of
this run. A file that cannot be read leaves a notice and no filter. -/
def filterNewerThanFile (d : Draft) (env : Environment) (path : String) : Except Failure Draft :=
  let cleared := d.update fun s => { s with timeFilter := .off }
  match Time.readStampFile env path with
  | .error .embeddedNul => .error (.fault .embeddedNul)
  | .error fault => .ok (cleared.noting fault.message)
  | .ok stamp =>
    match cleared.filterNewer "--newer-than-stamp" stamp with
    | .error failure => .error failure
    | .ok filtered =>
      let registered := filtered.register ⟨stampFormatter, path⟩
      .ok (if Time.isPlain stamp then registered else registered.addOverride civilStamp)

/-- Adds a cache file, which has to exist. -/
def addCache (d : Draft) (env : Environment) (path : String) : Except Failure Draft :=
  match env.isFile (tidyPath path) with
  | .error fault => .error (.fault (.lookup (tidyPath path) fault))
  | .ok true => .ok (d.update fun s => { s with caches := s.caches ++ [path] })
  | .ok false => .error (.config (.conflict (.noCache path)))

end Draft

namespace Options

inductive Effect
  | threads
  | maxDepth
  | sortCriteria
  | types
  | sizeLimits
  | algorithm
  | output (mode : OutputMode)
  | paranoidMem
  | newerThanStamp
  | newerThan
  | clampLow
  | clampTop
  | configure
  | cache
  | preset (sinks : Preset)
  | verbosity (delta : Int)
  | paranoia (delta : Int)
  | mergeDirectories
  | switch (switch : Switch) (on : Bool)
  deriving DecidableEq, Repr

def integerValue (option value : String) : Except Failure Int :=
  match readInteger? value with
  | some n => .ok n
  | none => .error (.config (.usage (.notAnInteger option value)))

/-- A text that an option cannot read, as a failure. -/
def unread {ε : Type} (announce : ε → ConfigError) : Unread ε → Failure
  | .rejected error => .config (announce error)
  | .overflow => .fault .overflow

def clampValue (value : String) : Except Failure Clamp :=
  (Clamp.parse value).mapError (unread .clamp)

/-- The draft after an option. Options without a value are given the empty text. -/
def Effect.apply (env : Environment) (effect : Effect) (value : String) (d : Draft) :
    Except Failure Draft :=
  match effect with
  | .threads => (integerValue "threads" value).map fun n => d.update ({ · with threads := n })
  | .maxDepth => (integerValue "max-depth" value).map fun n => d.update ({ · with depth := n })
  | .sortCriteria => .ok (d.update ({ · with sortCriteria := value }))
  | .types => .ok (d.applyLintTypes Lint.catalog value)
  | .sizeLimits =>
    match Size.parseRange value with
    | .error reason => .error (unread .size reason)
    | .ok (least, most) =>
      .ok (d.update ({ · with minSize := least, maxSize := most, limitsSpecified := true }))
  | .algorithm =>
    match Checksum.parse? value with
    | none => .error (.config (.conflict (.unknownAlgorithm value)))
    | some checksum => .ok (d.update ({ · with checksum := checksum }))
  | .output mode => .ok (d.addOutput mode value)
  | .paranoidMem =>
    match Size.parse value with
    | .error reason => .error (unread .size reason)
    | .ok size => .ok (d.update ({ · with paranoidMem := size }))
  | .newerThanStamp => d.filterNewerThanFile env value
  | .newerThan => d.filterNewer "--newer-than" value
  | .clampLow => (clampValue value).map fun clamp => d.update ({ · with clampStart := clamp })
  | .clampTop => (clampValue value).map fun clamp => d.update ({ · with clampEnd := clamp })
  | .configure => .ok (d.configure value)
  | .cache => d.addCache env value
  | .preset sinks => .ok (d.replaceSinks sinks.sinks)
  | .verbosity delta => .ok { d with verbosityCount := d.verbosityCount + delta }
  | .paranoia delta => d.stepParanoia delta
  | .mergeDirectories => .ok d.mergeDirectories
  | .switch target on => .ok (d.update (·.withSwitch target on))

end Options

end ScanSetup
