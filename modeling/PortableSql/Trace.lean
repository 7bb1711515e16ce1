import PortableSql.Log.Record
import PortableSql.Failure

/-!
# Spans

A span says what one call did: its name, its attributes, and how it failed. Attributes without a
value are left out. When the attributes cannot be had, a warning is made and the call goes on.
-/

namespace PortableSql.Trace

/-- The role of a call in a trace. -/
inductive Kind where
  | internal
  | server
  | client
  | producer
  | consumer
deriving DecidableEq, Repr

/-- Every role, with its name. -/
def Kind.spellings : List (String × Kind) :=
  [("INTERNAL", internal), ("SERVER", server), ("CLIENT", client), ("PRODUCER", producer),
   ("CONSUMER", consumer)]

/-- The name of a role. -/
def Kind.name (kind : Kind) : String :=
  ((spellings.find? (·.2 = kind)).map Prod.fst).getD ""

/-- What one call did. -/
structure Span where
  name : String
  kind : Kind := .client
  attributes : List (String × Value) := []
  /-- The classes of the failures of the call. -/
  failures : List String := []

/-- The call failed. -/
def Span.failed (span : Span) : Bool := !span.failures.isEmpty

/-- The name of a span: the given one, or one made of the name of what is called. -/
def spanName (given : Option String) (called : String) : String :=
  match given with
  | some name => if name.isEmpty then "sqlcommand." ++ called else name
  | none => "sqlcommand." ++ called

/-- Sets attributes that have a value. -/
def setAttributes (attributes : List (String × Value)) : List (String × Value) :=
  attributes.foldl (fun known (key, value) =>
    match value with
    | .null => known
    | value => putEntry known key value) []

/-- The span of a call with a known outcome. -/
def spanOf {α : Type} (name : String) (kind : Kind) (attributes : List (String × Value)) :
    Except Failure α → Span
  | .ok _ => { name, kind, attributes := setAttributes attributes }
  | .error failure =>
    let coded := match failure.code? with
      | some code => putEntry (setAttributes attributes) "sqlcommand.error_code" (.text code.label)
      | none => setAttributes attributes
    { name, kind, attributes := coded, failures := [failure.className] }

/-- The warning that the attributes of a span cannot be had. -/
def unavailable (name : String) : Log.Record where
  level := .warning
  speaker := "sqlcommand.utils.decorators"
  message := "Span attributes unavailable for " ++ name

end PortableSql.Trace
