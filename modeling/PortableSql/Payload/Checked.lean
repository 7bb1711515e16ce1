import PortableSql.Reporting

/-!
# Checked readings

Reading a payload finds all issues, not only the first: independent parts are read side by side
and their issues are joined in order. Only a fault ends a reading at once; the records made of
earlier issues stay with it.
-/

namespace PortableSql

/-- The outcome of reading a part of a payload. -/
inductive Checked (α : Type) where
  | accepted (value : α)
  | rejected (issues : List Issue)
  | broken (failure : Failure) (earlier : List Log.Record)

namespace Checked

/-- The records made of issues. -/
def issueRecords (issues : List Issue) : List Log.Record := issues.filterMap (·.record)

/-- Applies a function to what was read. -/
def map {α β : Type} (transform : α → β) : Checked α → Checked β
  | accepted value => .accepted (transform value)
  | rejected issues => .rejected issues
  | broken failure earlier => .broken failure earlier

/-- Reads a second part beside the first. -/
def both {α β : Type} (first : Checked α) (second : Unit → Checked β) : Checked (α × β) :=
  match first with
  | broken failure earlier => .broken failure earlier
  | accepted value => (second ()).map fun other => (value, other)
  | rejected issues => match second () with
    | accepted _ => .rejected issues
    | rejected others => .rejected (issues ++ others)
    | broken failure earlier => .broken failure (issueRecords issues ++ earlier)

instance : Functor Checked := ⟨map, fun value => map fun _ => value⟩

instance : Applicative Checked where
  pure := accepted
  seq transform argument :=
    (transform.both argument).map fun (function, value) => function value

/-- Continues with what was read; a rejected part leaves nothing to continue with. -/
def andThen {α β : Type} (first : Checked α) (next : α → Checked β) : Checked β :=
  match first with
  | accepted value => next value
  | rejected issues => .rejected issues
  | broken failure earlier => .broken failure earlier

/-- Refuses a part for one reason. -/
def refused {α : Type} (reason : String) : Checked α := .rejected [{ path := [], text := reason }]

/-- Refuses the value of a part for a reason of this library. -/
def refusedValue {α : Type} (reason : String) : Checked α := refused ("Value error, " ++ reason)

/-- Refuses the value of a part by a report of this library. -/
def refusedBy {α : Type} (report : Failure) : Checked α :=
  .rejected [{ path := [], text := "Value error, " ++ report.text, record := report.record? }]

/-- Ends the whole reading by a fault. -/
def faulty {α : Type} (kind : FaultKind) (message : String) : Checked α :=
  .broken (.fault kind message) []

/-- Refuses what was read when there is a reason to. -/
def checkedBy {α : Type} (part : Checked α) (reason? : α → Option String) : Checked α :=
  part.andThen fun value => match reason? value with
    | none => .accepted value
    | some reason => .refusedValue reason

/-- Places the issues of a part under a key or position. -/
def inside {α : Type} (step : String) : Checked α → Checked α
  | rejected issues => .rejected (issues.map fun issue => { issue with path := step :: issue.path })
  | other => other

/-- Adds issues after those found. -/
def also {α : Type} (part : Checked α) (issues : List Issue) : Checked α :=
  if issues.isEmpty then part
  else match part with
    | accepted _ => .rejected issues
    | rejected earlier => .rejected (earlier ++ issues)
    | other => other

/-- Reads items side by side, each under its position, counted from `position`. -/
def items {α β : Type} (read : α → Checked β) (position : Nat) : List α → Checked (List β)
  | [] => .accepted []
  | item :: rest =>
    (((read item).inside (toString position)).both fun _ => items read (position + 1) rest).map
      fun (first, others) => first :: others

/-- The reading as a computation: a rejected part fails with its issues. -/
def toReporting {α : Type} : Checked α → Reporting α
  | accepted value => pure value
  | rejected issues => do
    modify fun records => records ++ issueRecords issues
    throw (.misfit issues)
  | broken failure earlier => do
    modify fun records => records ++ earlier
    throw failure

end Checked

end PortableSql
