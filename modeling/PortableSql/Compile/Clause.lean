import PortableSql.Compile.Arguments
import PortableSql.Dialect.Quotation
import PortableSql.Sql.Statement
import PortableSql.Value.Integer

/-!
# Clauses

A clause text is emitted as it is, apart from its tokens. A placeholder consumes the next
argument: where values stand, it remains and the argument becomes a parameter; where names stand,
the argument is quoted in its place. A subquery token becomes the text of the subquery in
parentheses, and the parameters of the subquery join the others at this point. What is put into a
clause is not scanned again.
-/

namespace PortableSql

/-- What is bound so far while the clauses of a statement are emitted. -/
structure Binding where
  arguments : Arguments
  parameters : List Parameter := []
  /-- The positions of the subqueries that were named. -/
  used : List Nat := []

/-- Emits clauses, binding arguments on the way. -/
abbrev Emitting (α : Type) := StateT Binding Reporting α

namespace Emitting

/-- Fails with a report. -/
def refuse {α : Type} (failure : Failure) : Emitting α := liftM (Reporting.raise (α := α) failure)

/-- What is known already, or why it is not. -/
def ofExcept {α : Type} (outcome : Except Failure α) : Emitting α :=
  liftM (Reporting.ofExcept outcome)

/-- Emits clauses from given arguments; they have to be consumed. -/
def run (arguments : List Value) (command : String) (emission : Emitting String) :
    Reporting Statement := do
  let (sql, binding) ← StateT.run emission { arguments := { values := arguments, command } }
  Reporting.ofExcept binding.arguments.ensureConsumed
  pure { sql, parameters := binding.parameters }

/-- Consumes the next argument. -/
def next (clause : String) : Emitting Value := do
  let binding ← get
  match binding.arguments.take clause with
  | .error failure => refuse failure
  | .ok (value, arguments) => do
    set { binding with arguments }
    pure value

/-- Adds a parameter. -/
def bind (parameter : Parameter) : Emitting Unit :=
  modify fun binding => { binding with parameters := binding.parameters ++ [parameter] }

end Emitting

/-- What the placeholders of a clause stand for. -/
inductive PlaceholderUse where
  | refused
  | name
  | value
deriving DecidableEq, Repr

/-- The text in the place of a placeholder. -/
def emitPlaceholder (dialect : Dialect) (clause : String) : PlaceholderUse → Emitting String
  | .refused => .refuse (.validation ("? placeholders are not allowed in " ++ clause) clause .null
      .argumentMismatch)
  | .name => do
    let value ← Emitting.next clause
    quoteNameValue dialect.table.identifierQuote (clause ++ " argument") value
  | .value => do
    Emitting.bind (.infer (← Emitting.next clause))
    pure "?"

/-- The text in the place of a subquery token. -/
def emitSubquery (subqueries : List (Reporting Statement)) (digits : List Char) :
    Emitting String := do
  match Sql.tokenIndex digits with
  | .error fault => .refuse (fault.failure (Text.quoted (String.ofList digits)))
  | .ok index => match subqueries[index]? with
    | none => .refuse (.validation
        ("subquery token \x7b" ++ toString index ++ "\x7d has no matching SUBQUERIES entry (" ++
          toString subqueries.length ++ " given)")
        "SUBQUERIES" .null .argumentMismatch)
    | some compiled => do
      let statement ← compiled
      modify fun binding => { binding with
        parameters := binding.parameters ++ statement.parameters
        used := binding.used ++ [index] }
      pure ("(" ++ statement.sql ++ ")")

/-- Emits a clause text. Without subqueries their tokens are ordinary text. -/
def emitClause (dialect : Dialect) (clause : String) (use : PlaceholderUse)
    (subqueries? : Option (List (Reporting Statement))) (text : String) : Emitting String := do
  let tokens : Sql.Tokens := { subqueries := subqueries?.isSome }
  let characters ← Sql.replaceM (emitPlaceholder dialect clause use)
    (emitSubquery (subqueries?.getD [])) (Sql.pieces tokens dialect.table.quotedSpans text.toList)
  pure (String.ofList characters)

/-- Emits a clause after its keyword; a clause without text is left out. -/
def emitOptional (dialect : Dialect) (clause : String) (use : PlaceholderUse)
    (subqueries? : Option (List (Reporting Statement))) : Option String → Emitting String
  | none => pure ""
  | some text =>
    if text.isEmpty then pure ""
    else do pure (" " ++ clause ++ " " ++ (← emitClause dialect clause use subqueries? text))

end PortableSql
