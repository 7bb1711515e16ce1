import PortableSql.Log.Record
import PortableSql.Text.Blank
import PortableSql.Value.Text

/-!
# Failures

A failure is a report of this library or a fault of something below it. A report has a class, a
code, a message and named details; it may wrap the failure that caused it. Faults are what a
server, a script or a conversion raises by itself.
-/

namespace PortableSql

/-- The codes that categorise reports. -/
inductive ErrorCode where
  | configuration
  | validation
  | invalidArgument
  | argumentMismatch
  | invalidIdentifier
  | collapsedClause
  | unsupportedCommand
  | execution
  | queryExecution
  | partialPlan
  | connection
  | disconnect
deriving DecidableEq, Repr

namespace ErrorCode

/-- The code as it is written in reports. -/
def label : ErrorCode → String
  | configuration => "CONFIG_001"
  | validation => "VALIDATION_001"
  | invalidArgument => "VALIDATION_002"
  | argumentMismatch => "VALIDATION_003"
  | invalidIdentifier => "VALIDATION_004"
  | collapsedClause => "VALIDATION_005"
  | unsupportedCommand => "COMMAND_001"
  | execution => "EXECUTION_001"
  | queryExecution => "EXECUTION_002"
  | partialPlan => "EXECUTION_003"
  | connection => "CONNECTION_001"
  | disconnect => "CONNECTION_002"

/-- The name of a code. -/
def name : ErrorCode → String
  | configuration => "CONFIG_ERROR"
  | validation => "VALIDATION_ERROR"
  | invalidArgument => "INVALID_ARGUMENT"
  | argumentMismatch => "ARGUMENT_MISMATCH"
  | invalidIdentifier => "INVALID_IDENTIFIER"
  | collapsedClause => "COLLAPSED_CLAUSE"
  | unsupportedCommand => "UNSUPPORTED_COMMAND"
  | execution => "EXECUTION_ERROR"
  | queryExecution => "QUERY_EXECUTION_ERROR"
  | partialPlan => "PARTIAL_PLAN_ERROR"
  | connection => "CONNECTION_ERROR"
  | disconnect => "DISCONNECT_ERROR"

/-- Every code. -/
def all : List ErrorCode :=
  [configuration, validation, invalidArgument, argumentMismatch, invalidIdentifier,
   collapsedClause, unsupportedCommand, execution, queryExecution, partialPlan, connection,
   disconnect]

/-- The code of a name. -/
def ofName? (spelling : String) : Option ErrorCode := all.find? (·.name = spelling)

end ErrorCode

/-- The classes of reports. -/
inductive ReportClass where
  | general
  | validation
  | unsupportedCommand
  | execution
deriving DecidableEq, Repr

namespace ReportClass

/-- The name of a class, as reports show it. -/
def name : ReportClass → String
  | general => "SQLCommandError"
  | validation => "ValidationError"
  | unsupportedCommand => "UnsupportedCommandError"
  | execution => "ExecutionError"

/-- The code of a report that names none. -/
def code : ReportClass → ErrorCode
  | general => .execution
  | validation => .validation
  | unsupportedCommand => .unsupportedCommand
  | execution => .execution

/-- Every class. -/
def all : List ReportClass := [general, validation, unsupportedCommand, execution]

/-- The class of a name. -/
def ofName? (spelling : String) : Option ReportClass := all.find? (·.name = spelling)

end ReportClass

/-- The kinds of faults that are no reports of this library. -/
inductive FaultKind where
  /-- The database toolkit refused. -/
  | database
  | runtime
  /-- A value of the right type is unacceptable. -/
  | badValue
  /-- A value has the wrong type. -/
  | badType
  | missingKey
  | badIndex
  /-- A number is too large for its place. -/
  | overflow
  /-- A value does not have the named property. -/
  | missingProperty
  /-- The system below refused. -/
  | system
  /-- There is no memory left. -/
  | exhausted
  /-- A text is no decimal number. -/
  | badDecimal
deriving DecidableEq, Repr

/-- The name of a kind of fault, as messages show it. -/
def FaultKind.name : FaultKind → String
  | database => "SQLAlchemyError"
  | runtime => "RuntimeError"
  | badValue => "ValueError"
  | badType => "TypeError"
  | missingKey => "KeyError"
  | badIndex => "IndexError"
  | overflow => "OverflowError"
  | missingProperty => "AttributeError"
  | system => "OSError"
  | exhausted => "MemoryError"
  | badDecimal => "InvalidOperation"

/-- A place in a payload that was found wrong, and why. -/
structure Issue where
  /-- Keys and positions from the outermost inwards; none for the payload as a whole. -/
  path : List String
  text : String
  /-- The report made when the issue was found, if it was raised as one. -/
  record : Option Log.Record := none

/-- The place and the reason of an issue. -/
def Issue.describe (issue : Issue) : String :=
  let place := ".".intercalate issue.path
  (if place.isEmpty then "payload" else place) ++ ": " ++ issue.text

/-- All issues of one payload. -/
def describeIssues (issues : List Issue) : String :=
  "; ".intercalate (issues.map Issue.describe)

/-- What can go wrong. -/
inductive Failure where
  /-- A fault of something below this library. -/
  | fault (kind : FaultKind) (message : String)
  /-- A payload does not fit the model it was read as. -/
  | misfit (issues : List Issue)
  /-- A report of this library; a cause that is a misfit is not kept. -/
  | report (kind : ReportClass) (code : ErrorCode) (message : String)
      (details : List (String × Value)) (cause : Option Failure)

namespace Failure

/-- The name of the class of a failure. -/
def className : Failure → String
  | fault kind _ => kind.name
  | misfit _ => "ValidationError"
  | report kind _ _ _ _ => kind.name

/-- The text of a failure: a report starts with its code and ends with its cause. -/
def text : Failure → String
  | fault _ message => message
  | misfit issues => describeIssues issues
  | report _ code message _ cause =>
    let body := "[" ++ code.label ++ "] " ++ message
    match cause with
    | none => body
    | some inner => body ++ " (caused by: " ++ inner.className ++ ": " ++ inner.text ++ ")"

/-- Reports of this library, in contrast to faults and misfits. -/
def isReport : Failure → Bool
  | report .. => true
  | _ => false

/-- The code of a report. -/
def code? : Failure → Option ErrorCode
  | report _ code _ _ _ => some code
  | _ => none

/-- The class of a report. -/
def class? : Failure → Option ReportClass
  | report kind _ _ _ _ => some kind
  | _ => none

/-- The record that is made of a report when it arises. -/
def record? : Failure → Option Log.Record
  | report kind code message details _ => some
    { level := .error
      speaker := "sqlcommand.common.exceptions"
      message := message
      fields := [("error_code", .text code.label), ("error_type", .text kind.name),
        ("details", .dictionary (details.map fun (key, value) => (.text key, value)))] }
  | _ => none

/-- A report that a payload, an argument or an identifier is unacceptable. -/
def validation (message : String) (field : String := "") (value : Value := .null)
    (code : ErrorCode := .validation) (details : List (String × Value) := [])
    (cause : Option Failure := none) : Failure :=
  let located := if field.isEmpty then details else putEntry details "field" (.text field)
  let detailed := match value with
    | .null => located
    | present => putEntry located "value" (.text present.plain)
  .report .validation code message detailed cause

/-- A report that a command tag is not known. -/
def unsupportedCommand (tag : Value) (details : List (String × Value) := [])
    (cause : Option Failure := none) : Failure :=
  .report .unsupportedCommand .unsupportedCommand ("Unsupported command: " ++ tag.shown)
    (putEntry details "command" (.text tag.plain)) cause

mutual

/-- Why a value is no key of a dictionary, if it is none: something that can change is none, and
neither is what signals that it is no number. -/
def ofKey? : Value → Option Failure
  | .tuple items => ofKeys? items
  | .decimal (.notANumber _ true _) => some (.fault .badType "Cannot hash a signaling NaN value")
  | value@(.list _) | value@(.dictionary _) | value@(.binary .growable _) =>
    some (.fault .badType ("unhashable type: '" ++ value.typeName ++ "'"))
  | _ => none

/-- Why the first of some values that is no key is none. -/
def ofKeys? : List Value → Option Failure
  | [] => none
  | item :: rest => (ofKey? item).orElse fun _ => ofKeys? rest

end

/-- The longest query text that a report keeps. -/
def longestQuery : Nat := 500

/-- The query text that a report keeps: its beginning, marked when something was cut off. -/
def shortenedQuery (query : String) : String :=
  if query.length > longestQuery then Text.taken longestQuery query ++ "..." else query

/-- A report that a server did not run a statement. -/
def execution (message : String) (operation query : String := "")
    (code : ErrorCode := .execution) (details : List (String × Value) := [])
    (cause : Option Failure := none) : Failure :=
  let named := if operation.isEmpty then details
    else putEntry details "operation" (.text operation)
  let detailed := if query.isEmpty then named
    else putEntry named "query" (.text (shortenedQuery query))
  .report .execution code message detailed cause

/-- A report that wraps what a driver raised while it ran a query. -/
def queryExecution (query : String) (cause : Failure) (details : List (String × Value) := []) :
    Failure :=
  .execution ("Query execution failed: " ++ cause.text) "" query .queryExecution details
    (some cause)

/-- A report that a server cannot be reached. -/
def connection (message : String) (dialect route : String := "")
    (details : List (String × Value) := []) (cause : Option Failure := none) : Failure :=
  let named := if dialect.isEmpty then details else putEntry details "dialect" (.text dialect)
  let detailed := if route.isEmpty then named else putEntry named "route" (.text route)
  .report .execution .connection message detailed cause

/-- A report that a setting is unacceptable. -/
def configuration (message : String) (key : String := "")
    (details : List (String × Value) := []) (cause : Option Failure := none) : Failure :=
  .report .general .configuration message
    (if key.isEmpty then details else putEntry details "config_key" (.text key)) cause

end Failure

end PortableSql
