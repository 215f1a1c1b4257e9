/-!
# Log records

What the program notes about its own work, apart from its answers.  Levels
are ordered, and a run keeps the records at its level and above.
-/

namespace LayerLint

inductive LogLevel where
  | debug
  | info
  | warning
  | error
  deriving DecidableEq, Repr

namespace LogLevel

def name : LogLevel → String
  | debug => "DEBUG"
  | info => "INFO"
  | warning => "WARNING"
  | error => "ERROR"

def rank : LogLevel → Nat
  | debug => 0
  | info => 1
  | warning => 2
  | error => 3

end LogLevel

structure LogRecord where
  level : LogLevel
  message : String
  deriving DecidableEq, Repr

/-- Records in the order in which they were made. -/
abbrev Log := List LogRecord

/-- The records at a level and above. -/
def Log.from (level : LogLevel) (log : Log) : Log := log.filter fun r => level.rank ≤ r.level.rank

end LayerLint
