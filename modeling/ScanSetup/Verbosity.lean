set_option autoImplicit false

namespace ScanSetup

/-- How much is reported, from least to most. -/
inductive Verbosity
  | critical
  | error
  | warning
  | info
  | debug
  deriving DecidableEq, Repr

namespace Verbosity

def all : List Verbosity := [.critical, .error, .warning, .info, .debug]

def name : Verbosity → String
  | critical => "critical"
  | error => "error"
  | warning => "warning"
  | info => "info"
  | debug => "debug"

def named? (name : String) : Option Verbosity := all.find? (·.name == name)

def rank : Verbosity → Nat
  | critical => 0
  | error => 1
  | warning => 2
  | info => 3
  | debug => 4

/-- The level of a counter; counters beyond the ends stand for the last level there. -/
def ofCount (count : Int) : Verbosity :=
  if count ≤ 0 then .critical
  else if count = 1 then .error
  else if count = 2 then .warning
  else if count = 3 then .info
  else .debug

def defaultCount : Int := 2

/-- Warnings are reported from `warning` on. -/
def showsWarnings (v : Verbosity) : Bool := warning.rank ≤ v.rank

end Verbosity

end ScanSetup
