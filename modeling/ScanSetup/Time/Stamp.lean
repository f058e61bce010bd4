import ScanSetup.Number.Binary64
import ScanSetup.Number.Integer
import ScanSetup.Time.Calendar

set_option autoImplicit false

namespace ScanSetup.Time

open Text Number

/-- A text without a `T` is plain seconds. -/
def isPlain (spec : String) : Bool := !spec.toList.contains 'T'

/-- A sign and the digits after it. -/
def signedDigits (cs : List Char) : Bool × List Char :=
  let (negative, unsigned) := Decimal.takeSign cs
  (negative, unsigned.takeWhile isDigit)

inductive PlainFault
  | tooManyDigits (count : Nat)
  /-- The white space in front of the number holds an information separator. -/
  | separated (written : String)
  deriving DecidableEq, Repr

/-- The four information separators, which count as white space. -/
def isInformationSeparator (c : Char) : Bool := '\x1c' ≤ c && c ≤ '\x1f'

/-- The number at the start of a text, zero if there is none. -/
def parsePlain (spec : String) : Except PlainFault Int :=
  let blanks := spec.toList.takeWhile isBlank
  let rest := spec.toList.dropWhile isBlank
  let (negative, digits) := signedDigits rest
  if digits.isEmpty then .ok 0
  else if blanks.any isInformationSeparator then
    let sign := rest.takeWhile (!isDigit ·)
    .error (.separated (String.ofList (blanks ++ sign ++ digits)))
  else if maxIntegerDigits < digits.length then .error (.tooManyDigits digits.length)
  else .ok (signedValue negative digits)

/-- The fields of a written date and time of day. The zone is the offset from UTC in minutes. -/
structure CivilFields where
  year : Nat
  month : Nat
  day : Nat
  hour : Nat
  minute : Nat
  second : Nat
  zone : Int
  deriving DecidableEq, Repr

def takeDigits? (width : Nat) (cs : List Char) : Option (Nat × List Char) :=
  let digits := cs.take width
  if digits.length = width ∧ digits.all isDigit then some (digitsValue digits, cs.drop width)
  else none

def takeChar? (c : Char) : List Char → Option (List Char)
  | [] => none
  | d :: rest => if d == c then some rest else none

/-- Reads the fraction of a second, if there is one. Its digits are dropped. -/
def skipFraction (cs : List Char) : List Char :=
  match cs with
  | c :: d :: rest => if (c == '.' || c == ',') && isDigit d then rest.dropWhile isDigit else cs
  | _ => cs

/-- Reads the minutes of an offset, with an optional colon in front. -/
def takeZoneMinutes (cs : List Char) : Nat × List Char :=
  let unmarked := (takeChar? ':' cs).getD cs
  (takeDigits? 2 unmarked).getD (0, cs)

/-- Reads the offset from UTC in minutes: none, `Z`, or a sign, hours and optional minutes. -/
def takeZone (cs : List Char) : Int × List Char :=
  match cs with
  | 'Z' :: rest => (0, rest)
  | c :: rest =>
    if c == '+' || c == '-' then
      match takeDigits? 2 rest with
      | none => (0, cs)
      | some (hours, rest) =>
        let (minutes, rest) := takeZoneMinutes rest
        let total : Int := 60 * hours + minutes
        (if c == '-' then -total else total, rest)
    else (0, cs)
  | [] => (0, [])

def civilFields? (spec : String) : Option CivilFields := do
  let cs := spec.toList.dropWhile isBlank
  let (year, cs) ← takeDigits? 4 cs
  let cs ← takeChar? '-' cs
  let (month, cs) ← takeDigits? 2 cs
  let cs ← takeChar? '-' cs
  let (day, cs) ← takeDigits? 2 cs
  let cs ← takeChar? 'T' cs
  let (hour, cs) ← takeDigits? 2 cs
  let cs ← takeChar? ':' cs
  let (minute, cs) ← takeDigits? 2 cs
  let cs ← takeChar? ':' cs
  let (second, cs) ← takeDigits? 2 cs
  let (zone, cs) := takeZone (skipFraction cs)
  if cs.all isBlank then some ⟨year, month, day, hour, minute, second, zone⟩ else none

/-- The date exists, the time of day exists, and the offset is less than a day. -/
def CivilFields.isValid (f : CivilFields) : Bool :=
  1 ≤ f.year && (Date.mk f.year f.month f.day).isValid && f.hour < 24 && f.minute < 60 &&
    f.second < 60 && f.zone.natAbs < 24 * 60

def CivilFields.toSeconds (f : CivilFields) : Int :=
  (Date.mk f.year f.month f.day).toDays * 86400 + f.hour * 3600 + f.minute * 60 + f.second -
    f.zone * 60

/-- The instant of a date and time of day, zero if the text is not a valid one. -/
def parseCivil (spec : String) : Int :=
  match civilFields? spec with
  | none => 0
  | some f => if f.isValid then f.toSeconds else 0

/-- A point in time as it was given. -/
structure Stamp where
  instant : Int
  plain : Bool
  inFuture : Bool
  deriving DecidableEq, Repr

inductive StampFault
  | unparsable (spec : String)
  /-- Plain seconds that cannot be read. -/
  | plain (fault : PlainFault)
  deriving DecidableEq, Repr

/-- Reads a positive point in time and compares it with the reference time. -/
def parseStamp (now : Binary64) (spec : String) : Except StampFault Stamp :=
  let plain := isPlain spec
  match if plain then parsePlain spec else .ok (parseCivil spec) with
  | .error fault => .error (.plain fault)
  | .ok instant =>
    if instant ≤ 0 then .error (.unparsable spec) else .ok ⟨instant, plain, now.ltInt instant⟩

end ScanSetup.Time
