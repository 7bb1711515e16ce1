import PortableSql.Failure
import PortableSql.Log.Line
import PortableSql.Text.Case.Upper

/-!
# The context of a session in its log

Every record that is written says which session and dialect it belongs to, and which version of
this library wrote it. Records below the chosen severity are not written.
-/

namespace PortableSql.Log

/-- The session and the dialect that records belong to. -/
structure Context where
  sessionId : Option String := none
  dialect : Option String := none

namespace Context

/-- Changes what is given and leaves the rest. -/
def update (context : Context) (sessionId dialect : Option String) : Context where
  sessionId := sessionId.orElse fun _ => context.sessionId
  dialect := dialect.orElse fun _ => context.dialect

/-- What the context adds to every record. -/
def entries (context : Context) : List (String × Value) :=
  let orNull := fun (text : Option String) => (text.map Value.text).getD .null
  [("session_id", orNull context.sessionId), ("dialect", orNull context.dialect),
   ("sdk_name", .text "sqlcommand"), ("sdk_version", .text "0.4.0")]

end Context

/-- The ranks that the names of severities choose; without a severity warnings are the least that
is written. -/
def thresholds : List (String × Nat) :=
  [("CRITICAL", 50), ("FATAL", 50), ("ERROR", 40), ("WARN", 30), ("WARNING", 30), ("INFO", 20),
   ("DEBUG", 10), ("NOTSET", 30)]

/-- The least rank that is written, by its name in letters of any case. -/
def threshold (name : String) : Except Failure Nat :=
  match thresholds.lookup (Text.upper name) with
  | some rank => .ok rank
  | none => .error (.fault .badValue "Unable to configure handler 'stdout'")

/-- The lines of the records that are written, all with one timestamp. -/
def lines (context : Context) (least : Nat) (timestamp : String) (records : List Record) :
    List Line :=
  (records.filter fun record => least ≤ record.level.rank).map fun record =>
    { timestamp
      level := .text record.level.name
      speaker := .text record.speaker
      message := Text.points record.message
      fields := withEntries record.fields context.entries }

/-- The texts of lines. A line that cannot be written is left out, and what made it goes on. -/
def written (lines : List Line) : List String := lines.filterMap fun line => line.text.toOption

end PortableSql.Log
