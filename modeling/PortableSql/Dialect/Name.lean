import PortableSql.Dialect.Builtin
import PortableSql.Reporting
import PortableSql.Text.Case.Lower

/-!
# Names of dialects

A dialect is named by itself or by the address of a server, whose scheme begins with the name of
the backend; a driver may follow it after a plus sign.
-/

namespace PortableSql

namespace Family

/-- The names under which backends are known. -/
def aliases : List (String × Family) :=
  [("mysql", mysql), ("mariadb", mysql), ("postgresql", postgresql), ("postgres", postgresql),
   ("sqlite", sqlite), ("mssql", mssql)]

/-- The backend that a name or an address begins with, in small letters. -/
def backend (nameOrAddress : String) : String :=
  Text.lower (String.ofList (Text.trim
    (Text.before ['+'] (Text.before "://".toList nameOrAddress.toList))))

/-- The family of a dialect name or a server address. -/
def detect (nameOrAddress : String) : Reporting Family :=
  match aliases.lookup (backend nameOrAddress) with
  | some family => pure family
  | none => .raise (.configuration
      ("Unsupported dialect: " ++ Text.quoted (backend nameOrAddress) ++
        ". Supported dialects: " ++ Text.listed (all.map name)) "dialect")

end Family

/-- The built-in dialect of a name or a server address. -/
def Dialect.named (nameOrAddress : String) : Reporting Dialect := do
  pure (← Family.detect nameOrAddress).dialect

end PortableSql
