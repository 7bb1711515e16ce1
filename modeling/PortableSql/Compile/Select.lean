import PortableSql.Compile.Limit

/-!
# Compiling selects

A select compiles to one statement and, where the dialect cannot limit rows, to a row filter for
the cursor. Arguments are consumed in the order of the clauses in the statement. Subqueries
compile on their own, with their own arguments, and their limits cannot be emulated.
-/

namespace PortableSql

/-- The clauses of a select, given its compiled subqueries. -/
def emitSelect (dialect : Dialect) (nested : Bool) (into : Option String)
    (subqueries : List (Reporting Statement)) (select : Select) :
    Emitting (String × Option RowFilter) := do
  let clause := emitOptional dialect
  let columns ← emitClause dialect "columns" .refused (some subqueries) select.columns.joined
  let source ← clause "FROM" .name (some subqueries) select.source
  let condition ← clause "WHERE" .value (some subqueries) select.condition
  let grouping ← clause "GROUP BY" .name (some subqueries) select.grouping
  let having ← clause "HAVING" .value (some subqueries) select.having
  let ordering ← clause "ORDER BY" .name (some subqueries) select.ordering
  let target := (into.map (" INTO " ++ ·)).getD ""
  let sql := (if select.distinct then "SELECT DISTINCT " else "SELECT ") ++ columns ++ target ++
    source ++ condition ++ grouping ++ having ++ ordering
  match ← resolveLimit select.limit with
  | none => pure (sql, none)
  | some (offset, count) =>
    if dialect.table.limitSyntax = .limitOffset then do
      pure (sql ++ (← Emitting.ofExcept (limitSql offset count)), none)
    else if nested then do
      let shown ← Emitting.ofExcept (limitShown offset count)
      let warning : Log.Record := {
        level := .warning
        speaker := "sqlcommand.query_builder.base"
        message := "LIMIT inside a subquery is not supported by this dialect and was ignored"
        fields := [("db.dialect", .text dialect.name), ("limit", .text shown)] }
      liftM (Reporting.log warning)
      pure (sql, none)
    else pure (sql, some { skip := offset, take := some count })

/-- The positions of subqueries that no token named. -/
def unusedSubqueries (given : Nat) (used : List Nat) : List Nat :=
  (List.range given).filter fun position => !used.contains position

/-- Compiles a select, given its compiled subqueries. -/
def assembleSelect (dialect : Dialect) (nested : Bool) (into : Option String)
    (subqueries : List (Reporting Statement)) (select : Select) :
    Reporting (Statement × Option RowFilter) := do
  let ((sql, rowFilter), binding) ←
    StateT.run (emitSelect dialect nested into subqueries select)
      { arguments := { values := select.args, command := "SELECT" } }
  Reporting.ofExcept binding.arguments.ensureConsumed
  let unused := unusedSubqueries subqueries.length binding.used
  if unused.isEmpty then pure ()
  else Reporting.log {
    level := .debug
    speaker := "sqlcommand.query_builder.subquery"
    message := "Unreferenced subqueries ignored"
    fields := [("subquery.indexes", .list (unused.map fun (position : Nat) => .int position))] }
  pure ({ sql, parameters := binding.parameters }, rowFilter)

mutual

/-- Compiles a select as a subquery. -/
def compileNested (dialect : Dialect) : Select → Reporting Statement
  | select@{ subqueries, .. } => do
    pure (← assembleSelect dialect true none (compileSubqueries dialect subqueries) select).1

/-- Compiles subqueries, each on its own. -/
def compileSubqueries (dialect : Dialect) : List Select → List (Reporting Statement)
  | [] => []
  | select :: rest => compileNested dialect select :: compileSubqueries dialect rest

end

/-- Compiles a select, with its rows going into a table if one is named. -/
def compileSelect (dialect : Dialect) (nested : Bool) (into : Option String) (select : Select) :
    Reporting (Statement × Option RowFilter) :=
  assembleSelect dialect nested into (compileSubqueries dialect select.subqueries) select

end PortableSql
