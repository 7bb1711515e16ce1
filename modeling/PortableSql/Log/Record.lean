import PortableSql.Value.Basic

/-!
# Log records

What the library reports while it works: a severity, the part of the library that speaks, a
message and named values. Records are collected in the order of emission, also by a computation
that fails, so what was reported before a failure is never lost.
-/

namespace PortableSql.Log

/-- The severities of records, from the least. -/
inductive Level where
  | debug
  | info
  | warning
  | error
  | critical
deriving DecidableEq, Repr

/-- The rank of a severity among the others. -/
def Level.rank : Level → Nat
  | debug => 10
  | info => 20
  | warning => 30
  | error => 40
  | critical => 50

/-- The name of a severity, as records show it. -/
def Level.name : Level → String
  | debug => "DEBUG"
  | info => "INFO"
  | warning => "WARNING"
  | error => "ERROR"
  | critical => "CRITICAL"

/-- One report: a severity, a speaker, a message and named values. -/
structure Record where
  level : Level
  speaker : String
  message : String
  fields : List (String × Value) := []

/-- The messages of the warnings among the records. -/
def warnings (records : List Record) : List String :=
  (records.filter fun record => record.level = .warning).map (·.message)

end PortableSql.Log
