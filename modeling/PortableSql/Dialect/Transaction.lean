import PortableSql.Dialect.Builtin
import PortableSql.Sql.Statement

/-!
# Transaction statements

The statements that begin and end a transaction in a dialect.
-/

namespace PortableSql.Dialect

/-- Begins a transaction. -/
def beginTransaction (dialect : Dialect) : Statement := { sql := dialect.table.beginStatement }

/-- Ends a transaction and keeps its changes. -/
def commitTransaction (dialect : Dialect) : Statement := { sql := dialect.table.commitStatement }

/-- Ends a transaction and drops its changes. -/
def rollbackTransaction (dialect : Dialect) : Statement :=
  { sql := dialect.table.rollbackStatement }

end PortableSql.Dialect
