/-!
# Log records

Messages with a level and the name of the part that speaks.
-/

namespace SexprAsm

inductive Level where
  | debug
  | info
  | warning
  | error
  | critical
  deriving DecidableEq

namespace Level

def name : Level → String
  | debug => "DEBUG"
  | info => "INFO"
  | warning => "WARNING"
  | error => "ERROR"
  | critical => "CRITICAL"

def rank : Level → Nat
  | debug => 0
  | info => 1
  | warning => 2
  | error => 3
  | critical => 4

def all : List Level :=
  [debug, info, warning, error, critical]

end Level

structure Record where
  origin : String
  level : Level
  message : String
  deriving DecidableEq

namespace Record

/-- Whether the record is at least as grave as the level. -/
def reaches (r : Record) (level : Level) : Bool :=
  level.rank ≤ r.level.rank

/-- The record as a console shows it. -/
def consoleLine (r : Record) : String :=
  r.level.name ++ ": " ++ r.message ++ "\n"

/-- The record as a log file keeps it, under the time at which it was made. -/
def fileLine (stamp : String) (r : Record) : String :=
  stamp ++ " - " ++ r.origin ++ " - " ++ r.level.name ++ " - " ++ r.message ++ "\n"

end Record

end SexprAsm
