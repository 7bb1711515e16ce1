import PortableSql.Log.Message
import PortableSql.Log.Record
import PortableSql.Value.Json

/-!
# Log lines

A log line is one JSON record: the time, the severity, the speaker and the message, then the named
values of the record, the identity of the span in which it was made, and the failure it is about.
Long statements are cut.
-/

namespace PortableSql.Log

/-- What is written into one line. -/
structure Line where
  timestamp : String
  level : Value
  speaker : Value
  message : Text.Points
  fields : List (String × Value) := []
  /-- The numbers of the trace and of the span. -/
  span? : Option (Nat × Nat) := none
  /-- The failure with the full name of its class. -/
  exception? : Option String := none

/-- What is written under one name of a line. -/
inductive LineEntry where
  | value (value : Value)
  | points (codes : Text.Points)

/-- An entry as JSON. -/
def LineEntry.json : LineEntry → Except Failure String
  | .value held => held.json
  | .points codes => .ok (Text.jsonPoints codes)

/-- Names that every record uses for itself. -/
def reservedNames : List String :=
  ["name", "msg", "args", "levelname", "levelno", "pathname", "filename", "module", "exc_info",
   "exc_text", "stack_info", "lineno", "funcName", "created", "msecs", "relativeCreated",
   "thread", "threadName", "processName", "process", "asctime", "message"]

/-- Names whose values are statements. -/
def statementNames : List String := ["query", "db.statement"]

/-- The longest statement that is written in full. -/
def longestStatement : Nat := 1000

/-- A named value as it is written; statements that are too long are cut. -/
def shortened (name : String) (value : Value) : Value :=
  match value with
  | .text statement =>
    if statementNames.contains name && longestStatement < statement.length then
      .text (Text.taken longestStatement statement ++ "...")
    else value
  | _ => value

/-- The identity of a span; a number of zero, or one that is too large, is none. -/
def spanEntries (trace span : Nat) : List (String × Value) :=
  if trace = 0 || span = 0 || Nat.pow 16 32 ≤ trace || Nat.pow 16 16 ≤ span then []
  else [("trace_id", .text (String.ofList (Text.hexDigits 32 trace))),
    ("span_id", .text (String.ofList (Text.hexDigits 16 span)))]

/-- Adds entries; a known name keeps its place. -/
def withEntries {α : Type} (entries added : List (String × α)) : List (String × α) :=
  added.foldl (fun entries (name, value) => putEntry entries name value) entries

namespace Line

/-- The entries of a line. -/
def entries (line : Line) : List (String × LineEntry) :=
  let own := [("timestamp", LineEntry.value (.text line.timestamp)),
    ("level", .value line.level), ("logger", .value line.speaker),
    ("message", .points line.message)]
  let fields := line.fields.filter fun (name, _) =>
    !reservedNames.contains name && (own.lookup name).isNone
  let spanned := match line.span? with
    | some (trace, span) => spanEntries trace span
    | none => []
  let failed := match line.exception? with
    | some text => [("exception", Value.text text)]
    | none => []
  withEntries
    (own ++ fields.map fun (name, value) => (name, .value (shortened name value)))
    ((spanned ++ failed).map fun (name, value) => (name, .value value))

/-- The text of a line. -/
def text (line : Line) : Except Failure String := do
  let written ← line.entries.mapM fun (name, entry) => do
    pure (Text.json name ++ ": " ++ (← entry.json))
  pure ("\x7b" ++ Text.listed written ++ "\x7d")

end Line

/-- A failure with the full name of its class, as lines show it. -/
def exceptionText (failure : Failure) : String :=
  let name := match failure with
    | .fault .database _ => "sqlalchemy.exc.SQLAlchemyError"
    | other => other.className
  if failure.text.isEmpty then name else name ++ ": " ++ failure.text

end PortableSql.Log
