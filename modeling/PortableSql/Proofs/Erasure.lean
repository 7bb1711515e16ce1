import PortableSql.Proofs.Binding

/-!
# Erased values

The values that a command binds are its arguments that land on values, the values of the columns
it inserts, and the values it assigns other than true and false. Erasing a command replaces them
by null, in its subqueries as well. Two commands with the same erasure differ in these values only.

Blank lines and plans keep their texts and say how many parameters there are, but not which ones.
-/

namespace PortableSql

/-- Arguments with null in place of those that land on values. -/
def erasedArguments : List Landing → List Value → List Value
  | [], arguments => arguments
  | _ :: _, [] => []
  | landing :: landings, argument :: arguments =>
    (if landing = .value then .null else argument) :: erasedArguments landings arguments

@[simp] theorem length_erasedArguments (landings : List Landing) (arguments : List Value) :
    (erasedArguments landings arguments).length = arguments.length := by
  fun_induction erasedArguments landings arguments <;> simp_all

/-- Arguments whose erasure is that of two parts have two such parts. -/
theorem erased_append_inv {landings others : List Landing} {first second arguments : List Value}
    (same : first.length = landings.length)
    (alike : erasedArguments (landings ++ others) (first ++ second) =
      erasedArguments (landings ++ others) arguments) :
    ∃ begun following, arguments = begun ++ following ∧
      erasedArguments landings first = erasedArguments landings begun ∧
      erasedArguments others second = erasedArguments others following := by
  induction landings generalizing first arguments with
  | nil =>
    cases List.eq_nil_of_length_eq_zero same
    exact ⟨[], arguments, rfl, rfl, alike⟩
  | cons landing rest inductionHypothesis =>
    obtain ⟨argument, more, rfl⟩ := List.exists_cons_of_length_eq_add_one same
    cases arguments with
    | nil => cases alike
    | cons other remaining =>
      simp only [List.cons_append, erasedArguments, List.cons.injEq] at alike
      obtain ⟨begun, following, rfl, left, right⟩ :=
        inductionHypothesis (Nat.succ.inj same) alike.2
      refine ⟨other :: begun, following, rfl, ?_, right⟩
      simp only [erasedArguments, alike.1, left]

/-- Where nothing lands on values, nothing is erased. -/
theorem erasedArguments_eq_self {landings : List Landing} (free : .value ∉ landings)
    (arguments : List Value) : erasedArguments landings arguments = arguments := by
  fun_induction erasedArguments landings arguments with
  | case1 | case2 => rfl
  | case3 landing landings argument arguments inductionHypothesis =>
    rw [List.mem_cons, not_or] at free
    rw [if_neg (Ne.symm free.1), inductionHypothesis free.2]

mutual

/-- A select with its values erased. -/
def Select.erased (dialect : Dialect) : Select → Select
  | select@{ subqueries, .. } => { select with
    args := erasedArguments (select.landings dialect) select.args
    subqueries := selectsErased dialect subqueries }

/-- Selects with their values erased. -/
def selectsErased (dialect : Dialect) : List Select → List Select
  | [] => []
  | select :: rest => select.erased dialect :: selectsErased dialect rest

end

/-- A row with its values erased. -/
def Row.erased (row : Row) : Row := row.map fun (column, _) => (column, .null)

/-- The values of an insert, erased. -/
def InsertValues.erased : InsertValues → InsertValues
  | row values => row (Row.erased values)
  | rows values => rows (values.map Row.erased)

/-- An insert with its values erased. -/
def Insert.erased (dialect : Dialect) (insert : Insert) : Insert := { insert with
  values := insert.values.map InsertValues.erased
  select := insert.select.map (Select.erased dialect) }

/-- A value that is assigned, erased unless it is true or false. -/
def Value.assignedErased : Value → Value
  | bool truth => bool truth
  | _ => null

/-- An update with its values erased. -/
def Update.erased (dialect : Dialect) (update : Update) : Update := { update with
  values := update.values.map fun (column, value) => (column, value.assignedErased)
  args := erasedArguments
    (restrictionLandings dialect update.condition update.ordering update.limit) update.args }

/-- A delete with its values erased. -/
def Delete.erased (dialect : Dialect) (delete : Delete) : Delete := { delete with
  args := erasedArguments
    (restrictionLandings dialect delete.condition delete.ordering delete.limit) delete.args }

/-- The setting of a variable with its values erased. -/
def SetVariable.erased (dialect : Dialect) (setting : SetVariable) : SetVariable := { setting with
  args := erasedArguments
    (clauseLandings dialect (settingUse dialect) false (some setting.statement)) setting.args }

/-- A command with its values erased. -/
def Command.erased (dialect : Dialect) : Command → Command
  | .select command => .select (command.erased dialect)
  | .insert command => .insert (command.erased dialect)
  | .update command => .update (command.erased dialect)
  | .delete command => .delete (command.erased dialect)
  | .set command => .set (command.erased dialect)
  | .createTable command =>
    .createTable { command with select := command.select.map (Select.erased dialect) }
  | command => command

theorem selectsErased_eq_map (dialect : Dialect) (selects : List Select) :
    selectsErased dialect selects = selects.map (Select.erased dialect) := by
  induction selects with
  | nil => rfl
  | cons select rest inductionHypothesis =>
    rw [selectsErased, inductionHypothesis, List.map_cons]

theorem Select.erased_eq (dialect : Dialect) (select : Select) :
    select.erased dialect = { select with
      args := erasedArguments (select.landings dialect) select.args
      subqueries := select.subqueries.map (Select.erased dialect) } := by
  rw [← selectsErased_eq_map]
  cases select
  rfl

/-- What two selects with the same erasure share. -/
structure Select.Alike (dialect : Dialect) (select other : Select) : Prop where
  items : ∀ into, select.items dialect into = other.items dialect into
  limit : select.limit = other.limit
  exports : select.exportRows = other.exportRows ∧ select.exportHints = other.exportHints
  arguments : erasedArguments (select.landings dialect) select.args =
    erasedArguments (select.landings dialect) other.args
  subqueries : select.subqueries.map (Select.erased dialect) =
    other.subqueries.map (Select.erased dialect)

theorem Select.alike_of_erased {dialect : Dialect} {select other : Select}
    (same : select.erased dialect = other.erased dialect) : select.Alike dialect other := by
  rw [Select.erased_eq, Select.erased_eq] at same
  obtain ⟨args, columns, distinct, source, condition, grouping, having, ordering, limit,
    subqueries, exportRows, exportHints⟩ := select
  obtain ⟨otherArgs, _, _, _, _, _, _, _, _, _, _, _⟩ := other
  simp only [Select.mk.injEq] at same
  obtain ⟨arguments, rfl, rfl, rfl, rfl, rfl, rfl, rfl, rfl, nested, rfl, rfl⟩ := same
  exact ⟨fun _ => rfl, rfl, ⟨rfl, rfl⟩, arguments, nested⟩

end PortableSql
