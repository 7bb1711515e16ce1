import PortableSql.Proofs.Concord

/-!
# Batches of inserted rows

The rows of an insert are cut into batches, one for each statement. Two limits of the dialect
decide how large they are, and either of them may be missing: the most rows of a statement, and
the most parameters, which is not held against a single row. Both limits meet in one number, the
batch size, and zero stands for a size that nothing limits.

That number is characterized first: batches of a size are admitted by the limits exactly when the
number allows them. What the cutting does with the number is a fact about lists.
-/

namespace PortableSql

section Batches

variable {α : Type} {size : Nat} {items batch : List α}

end Batches

namespace Capabilities

end Capabilities

namespace Insert

/-- What is written for each row: a mark for each value, then the fragments. -/
def entries (insert : Insert) : List String :=
  List.replicate insert.valueColumns.length "?" ++ insert.inline.map Prod.snd

/-- The statement inserts some rows: it writes one group for each of them and binds their values,
row by row, with the kinds that are given for their columns. -/
structure Sends (insert : Insert) (table : String) (names : List String) (rows : List Row)
    (statement : Statement) : Prop where
  sql : statement.sql = "INSERT INTO " ++ table ++ " (" ++ Text.listed names ++ ") VALUES " ++
    Text.listed (List.replicate rows.length ("(" ++ Text.listed insert.entries ++ ")"))
  parameters : statement.parameters = rows.flatMap fun row =>
    row.map fun (column, value) => .infer value (insert.kinds.lookup column)
  counted : statement.parameters.length = rows.length * insert.valueColumns.length

end Insert

variable (dialect : Dialect)

end PortableSql
