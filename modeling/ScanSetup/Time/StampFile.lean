import ScanSetup.Environment
import ScanSetup.Text.Character
import ScanSetup.Text.Utf8

set_option autoImplicit false

namespace ScanSetup.Time

open Text

inductive LineFault
  | system (fault : SystemFault)
  | malformed (error : Utf8Error)
  deriving DecidableEq, Repr

inductive StampFileFault
  /-- The path holds a NUL character, so no file can be asked for. -/
  | embeddedNul
  | cannotOpen (path : String) (fault : SystemFault)
  | cannotRead (path : String) (fault : LineFault)
  | isEmpty (path : String)
  deriving DecidableEq, Repr

/-- A file is read in chunks of this many bytes. -/
def chunkSize : Nat := 8192

/-- The chunks of at most `fuel` bytes. -/
def chunksFrom (fuel : Nat) (bytes : List UInt8) : List (List UInt8) :=
  match fuel with
  | 0 => []
  | fuel + 1 =>
    if bytes.isEmpty then [] else bytes.take chunkSize :: chunksFrom fuel (bytes.drop chunkSize)

def chunks (bytes : List UInt8) : List (List UInt8) := chunksFrom bytes.length bytes

def isLineEnd (c : Char) : Bool := c == '\n' || c == '\r'

/-- The first line of a text, if it ends in the text. A carriage return ends a line too, but only
if it is followed by something that shows whether a line feed belongs to it. -/
def endedLine? : List Char → Option (List Char)
  | [] => none
  | '\n' :: _ => some []
  | ['\r'] => none
  | '\r' :: _ => some []
  | c :: rest => (endedLine? rest).map (c :: ·)

/-- Reads on to the end of the first line, and no further chunk than that. `text` is what has been
decoded, `pending` the start of a character behind it; at the end of a file nothing may be pending.
The position of an error counts from the pending bytes. -/
def readLine (failure? : Option SystemFault) (text : List Char) (pending : List UInt8) :
    List (List UInt8) → Except LineFault (List Char)
  | [] =>
    match failure? with
    | some fault => .error (.system fault)
    | none =>
      match (decodeUtf8 pending).error? with
      | some error => .error (.malformed error)
      | none => .ok (text.takeWhile (!isLineEnd ·))
  | chunk :: rest =>
    match decodePart (pending ++ chunk) with
    | .error error => .error (.malformed error)
    | .ok (more, pending) =>
      match endedLine? (text ++ more) with
      | some line => .ok line
      | none => readLine failure? (text ++ more) pending rest

def firstLine (file : Opened) : Except LineFault (List Char) :=
  readLine file.failure? [] [] (chunks file.bytes)

/-- The description of a malformed text: which bytes, where, and what is wrong with them. -/
def malformedMessage (error : Utf8Error) : String :=
  let reason :=
    match error.fault with
    | .startByte => "invalid start byte"
    | .continuationByte => "invalid continuation byte"
    | .truncated => "unexpected end of data"
  let position :=
    match error.bytes with
    | [b] =>
      "byte 0x" ++ String.ofList (hexDigits 2 b.toNat) ++ " in position " ++ toString error.offset
    | bytes =>
      "bytes in position " ++ toString error.offset ++ "-" ++
        toString (error.offset + bytes.length - 1)
  "'utf-8' codec can't decode " ++ position ++ ": " ++ reason

def LineFault.message : LineFault → String
  | .system fault => fault.message none
  | .malformed error => malformedMessage error

def StampFileFault.message : StampFileFault → String
  | .embeddedNul => "embedded null byte"
  | .cannotOpen path fault => "Cannot read stamp file " ++ path ++ ": " ++ fault.message (some path)
  | .cannotRead path fault => "Cannot read stamp file " ++ path ++ ": " ++ fault.message
  | .isEmpty path => "Stamp file " ++ path ++ " is empty"

/-- The first line of a stamp file, without white space at its ends. -/
def readStampFile (env : Environment) (path : String) : Except StampFileFault String :=
  let path := tidyPath path
  match env.openFile path with
  | .error .embeddedNul => .error .embeddedNul
  | .error (.system fault) => .error (.cannotOpen path fault)
  | .ok file =>
    match firstLine file with
    | .error fault => .error (.cannotRead path fault)
    | .ok line =>
      match trim line with
      | [] => .error (.isEmpty path)
      | stamp => .ok (String.ofList stamp)

end ScanSetup.Time
