namespace Brokerage

/-- How important an entry of the journal is. -/
inductive Level where
  | trace
  | debug
  | info
  | success
  | warning
  | error
  | critical
  deriving DecidableEq, Repr

namespace Level

def severity : Level -> Nat
  | trace => 5
  | debug => 10
  | info => 20
  | success => 25
  | warning => 30
  | error => 40
  | critical => 50

def name : Level -> String
  | trace => "TRACE"
  | debug => "DEBUG"
  | info => "INFO"
  | success => "SUCCESS"
  | warning => "WARNING"
  | error => "ERROR"
  | critical => "CRITICAL"

/-- All levels, the least important one first. -/
def all : List Level :=
  [trace, debug, info, success, warning, error, critical]

/-- The level with a name, which has to be written in capitals. -/
def ofName? (name : String) : Option Level :=
  all.find? fun level => level.name == name

/-- Whether entries of a level are kept by a sink with a threshold. -/
def reaches (level threshold : Level) : Bool :=
  threshold.severity ≤ level.severity

end Level
end Brokerage
