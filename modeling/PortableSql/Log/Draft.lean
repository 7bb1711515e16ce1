import PortableSql.Log.Line
import PortableSql.Log.Timestamp

/-!
# Drafts of log lines

A draft is what was reported before it is written into a line: the message and its arguments stand
apart, and the time is a number of seconds. Its named values may take the place of its own parts;
those that do are not written under their names.
-/

namespace PortableSql.Log

/-- What was reported. -/
structure Draft where
  speaker : Value
  level : Value
  message : Value
  /-- The arguments of the message. -/
  args : Value
  /-- The seconds since the beginning of 1970. -/
  created : Value
  named : List (String × Value) := []
  span? : Option (Nat × Nat) := none
  /-- The failure with the full name of its class. -/
  exception? : Option String := none

namespace Draft

/-- The arguments of a message that were given one by one. A single dictionary that is not empty
names them. -/
def argsOf : List Value → Value
  | [.dictionary (entry :: entries)] => .dictionary (entry :: entries)
  | args => .tuple args

/-- Puts a named value into the place of a part of the draft, if there is a part of that name. -/
def replaced (draft : Draft) (name : String) (value : Value) : Draft :=
  match name with
  | "name" => { draft with speaker := value }
  | "levelname" => { draft with level := value }
  | "msg" => { draft with message := value }
  | "args" => { draft with args := value }
  | "created" => { draft with created := value }
  | _ => draft

/-- The draft after all its named values took their places. -/
def settled (draft : Draft) : Draft :=
  draft.named.foldl (fun draft (name, value) => draft.replaced name value) draft

/-- The items of a list that are needed of one are not there. -/
def outOfRange (message : String) : Except Failure Value := .error (.fault .badIndex message)

/-- What stands at a position of a value that should have three parts. -/
def part (value : Value) (position : Nat) : Except Failure Value :=
  match value with
  | .text characters => match characters.toList[position]? with
    | some character => .ok (.text character.toString)
    | none => outOfRange "string index out of range"
  | .list items => (items[position]?.map .ok).getD (outOfRange "list index out of range")
  | .tuple items => (items[position]?.map .ok).getD (outOfRange "tuple index out of range")
  | .binary form bytes => match bytes[position]?, form with
    | some byte, _ => .ok (.int byte.toNat)
    | none, .fixed => outOfRange "index out of range"
    | none, .growable => outOfRange "bytearray index out of range"
    | none, .view => outOfRange "index out of bounds on dimension 1"
  | .dictionary entries => match entries.find? fun entry => entry.1.sameKey (.int position) with
    | some (_, part) => .ok part
    | none => .error (.fault .missingKey (toString position))
  | other => .error (.fault .badType
      ("'" ++ other.qualifiedTypeName ++ "' object is not subscriptable"))

/-- A value is no failure and does not have what one has. -/
def noFailure (value : Value) (property : String) : Failure :=
  .fault .missingProperty
    ("'" ++ value.qualifiedTypeName ++ "' object has no attribute '" ++ property ++ "'")

/-- The text of a value in the place of a failure: its three parts are a class, a failure and a
trace, and only null can stand for the last two. -/
def failureText (value : Value) : Except Failure String := do
  let trace ← part value 2
  let _ ← part value 0
  let raised ← part value 1
  match trace, raised with
  | .null, .null => .ok "NoneType: None"
  | .null, other => .error (noFailure other "__suppress_context__")
  | other, _ => .error (noFailure other "tb_frame")

/-- The text of the failure of a draft, which a named value may replace or take away. -/
def exceptionText? (draft : Draft) : Except Failure (Option String) :=
  match draft.named.lookup "exc_info" with
  | none => .ok draft.exception?
  | some value => if value.holds then (failureText value).map some else .ok none

/-- The text of the message. A named value can take the place of its making, but cannot make it. -/
def messageText (draft : Draft) : Except Failure Text.Points :=
  match draft.named.lookup "getMessage" with
  | some value => .error (.fault .badType
      ("'" ++ value.qualifiedTypeName ++ "' object is not callable"))
  | none => Log.messageText draft.message.plain draft.args

/-- The line of a draft. -/
def line (draft : Draft) : Except Failure Line := do
  let settled := draft.settled
  let timestamp ← (← Moment.ofValue settled.created).iso
  let message ← settled.messageText
  pure {
    timestamp
    level := settled.level
    speaker := settled.speaker
    message
    fields := settled.named
    span? := settled.span?
    exception? := ← settled.exceptionText? }

end Draft

end PortableSql.Log
