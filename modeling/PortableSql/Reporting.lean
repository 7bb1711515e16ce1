import PortableSql.Failure

/-!
# Computations that report

A computation ends with a value or a failure and leaves the records it made behind in both
cases. Raising a report of this library makes a record of it; raising a fault makes none.
-/

namespace PortableSql

/-- A computation that may fail and that adds to the records made so far. -/
abbrev Reporting (α : Type) := ExceptT Failure (StateM (List Log.Record)) α

namespace Reporting

/-- Adds one record. -/
def log (record : Log.Record) : Reporting Unit :=
  modify fun records => records ++ [record]

/-- Fails, and records the failure when it is a report. -/
def raise {α : Type} (failure : Failure) : Reporting α := do
  match failure.record? with
  | some record => log record
  | none => pure ()
  throw failure

/-- Runs a computation from no records. -/
def start {α : Type} (computation : Reporting α) : Except Failure α × List Log.Record :=
  computation.run.run []

/-- The outcome of a computation that starts from no records. -/
def result {α : Type} (computation : Reporting α) : Except Failure α := computation.start.1

/-- The records of a computation that starts from no records. -/
def records {α : Type} (computation : Reporting α) : List Log.Record := computation.start.2

@[simp] theorem start_pure {α : Type} (value : α) :
    start (pure value : Reporting α) = (.ok value, []) := rfl

@[simp] theorem start_throw {α : Type} (failure : Failure) :
    start (throw failure : Reporting α) = (.error failure, []) := rfl

/-- Raising fails with what is raised, whatever is recorded. -/
@[simp] theorem result_raise {α : Type} (failure : Failure) :
    result (raise failure : Reporting α) = .error failure := by
  unfold result raise
  cases failure.record? <;> rfl

/-- A computation that is finished already. -/
def ofExcept {α : Type} : Except Failure α → Reporting α
  | .ok value => pure value
  | .error failure => raise failure

end Reporting

end PortableSql
