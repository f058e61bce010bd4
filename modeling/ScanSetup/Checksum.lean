import ScanSetup.Text.Character
import ScanSetup.Text.Case

set_option autoImplicit false

namespace ScanSetup

/-- A checksum algorithm. `paranoid` compares files byte by byte. -/
inductive Checksum
  | md5
  | sha1
  | sha256
  | sha512
  | spooky32
  | spooky64
  | spooky
  | city
  | murmur
  | bastard
  | paranoid
  deriving DecidableEq, Repr

namespace Checksum

def all : List Checksum :=
  [.md5, .sha1, .sha256, .sha512, .spooky32, .spooky64, .spooky, .city, .murmur, .bastard,
    .paranoid]

def name : Checksum → String
  | md5 => "md5"
  | sha1 => "sha1"
  | sha256 => "sha256"
  | sha512 => "sha512"
  | spooky32 => "spooky32"
  | spooky64 => "spooky64"
  | spooky => "spooky"
  | city => "city"
  | murmur => "murmur"
  | bastard => "bastard"
  | paranoid => "paranoid"

def named? (name : String) : Option Checksum := all.find? (·.name == name)

/-- The algorithm that a text names, in any case and with white space around it. -/
def parse? (text : String) : Option Checksum :=
  named? (Text.lower (String.ofList (Text.trim text.toList)))

end Checksum

/-- What a level of paranoia does to the algorithm. -/
inductive ParanoiaEffect
  | keep
  | choose (algorithm : Checksum)
  deriving DecidableEq, Repr

/-- The levels from -2 to 3. Level zero keeps the chosen algorithm. -/
def paranoiaEffect? (level : Int) : Option ParanoiaEffect :=
  if level = -2 then some (.choose .spooky32)
  else if level = -1 then some (.choose .spooky64)
  else if level = 0 then some .keep
  else if level = 1 then some (.choose .bastard)
  else if level = 2 then some (.choose .sha512)
  else if level = 3 then some (.choose .paranoid)
  else none

end ScanSetup
