import PortableSql.Proofs.Plan

/-!
# Where arguments land

The arguments of a command are consumed by the placeholders of its clauses and of its limit, from
left to right. Where they land is known from the texts alone: as a name, as a value or as a number
of the limit. What is written consumes one argument for each landing, and nothing else consumes
any.
-/

namespace PortableSql

/-- What an argument is consumed as. -/
inductive Landing where
  | name
  | value
  | limit
deriving DecidableEq, Repr

/-- Where the argument of a placeholder lands; placeholders that are refused consume none. -/
def PlaceholderUse.landings : PlaceholderUse → List Landing
  | refused => []
  | name => [.name]
  | value => [.value]

/-- Where the arguments of an item land. -/
def Item.landings : Item → List Landing
  | placeholder _ use => use.landings
  | text _ | subquery _ => []

/-- Where the arguments of items land, from left to right. -/
def landings (items : List Item) : List Landing := items.flatMap Item.landings

@[simp] theorem landings_nil : landings [] = [] := rfl

@[simp] theorem landings_cons (item : Item) (items : List Item) :
    landings (item :: items) = item.landings ++ landings items := rfl

@[simp] theorem landings_append (items others : List Item) :
    landings (items ++ others) = landings items ++ landings others := List.flatMap_append

/-- Where the arguments of a clause land: one for each of its placeholders. -/
def clauseLandings (dialect : Dialect) (use : PlaceholderUse) (subqueries : Bool)
    (text : Option String) : List Landing :=
  (Sql.pieces { subqueries } dialect.table.quotedSpans (text.getD "").toList).flatMap fun piece =>
    if piece = .placeholder then use.landings else []

theorem landings_clauseItems (dialect : Dialect) (clause : String) (use : PlaceholderUse)
    (subqueries : Bool) (text : String) :
    landings (clauseItems dialect clause use subqueries text) =
      clauseLandings dialect use subqueries (some text) := by
  unfold landings clauseItems clauseLandings
  rw [List.flatMap_map]
  refine List.flatMap_congr fun piece _ => ?_
  cases piece <;> simp [Item.ofPiece, Item.landings]

theorem landings_optionalItems (dialect : Dialect) (clause : String) (use : PlaceholderUse)
    (subqueries : Bool) (text : Option String) :
    landings (optionalItems dialect clause use subqueries text) =
      clauseLandings dialect use subqueries text := by
  cases text with
  | none => simp [optionalItems, clauseLandings, Sql.pieces]
  | some text =>
    by_cases blank : text.isEmpty
    · have empty : text = "" := by simpa using blank
      subst empty
      simp [optionalItems, clauseLandings, Sql.pieces]
    · simp only [optionalItems, blank, Bool.false_eq_true, if_false, landings_cons,
        landings_clauseItems]
      rfl

theorem clauseLandings_refused (dialect : Dialect) (subqueries : Bool) (text : Option String) :
    clauseLandings dialect .refused subqueries text = [] :=
  List.flatMap_eq_nil_iff.mpr fun piece _ => by split <;> rfl

/-- Where the arguments of a limit land: one for each of its question marks. -/
def limitLandings : Option Limit → List Landing
  | none | some (.count _) => []
  | some (.written limit) =>
    (limitParts limit).flatMap fun part => if part = ['?'] then [.limit] else []

/-- Where the arguments of a select land. -/
def Select.landings (dialect : Dialect) (select : Select) : List Landing :=
  (select.clauses.flatMap fun (_, use, text) => clauseLandings dialect use true text) ++
    limitLandings select.limit

/-- The arguments of the items of a select land in the clauses after its columns. -/
theorem landings_items (dialect : Dialect) (into : Option String) (select : Select) :
    PortableSql.landings (select.items dialect into) =
      select.clauses.flatMap fun (_, use, text) => clauseLandings dialect use true text := by
  simp only [Select.items, Select.clauseItems, Select.clauses, landings_cons, landings_append,
    landings_nil, landings_clauseItems, landings_optionalItems, clauseLandings_refused,
    Item.landings, List.flatMap_cons, List.flatMap_nil, List.nil_append]

/-- Where the arguments of a change land. -/
def restrictionLandings (dialect : Dialect) (condition ordering : Option String)
    (limit : Option Limit) : List Landing :=
  clauseLandings dialect .value false condition ++
    (clauseLandings dialect .name false ordering ++ limitLandings limit)

/-- Every argument is accepted where it lands. -/
def Met (accepts : Landing → Value → Prop) (landings : List Landing) (arguments : List Value) :
    Prop :=
  ∀ landed ∈ landings.zip arguments, accepts landed.1 landed.2

/-- What is accepted in a row is accepted in both of its parts. -/
theorem met_append {accepts : Landing → Value → Prop} {landings others : List Landing}
    {arguments more : List Value} (same : arguments.length = landings.length) :
    Met accepts (landings ++ others) (arguments ++ more) ↔
      Met accepts landings arguments ∧ Met accepts others more := by
  unfold Met
  rw [List.zip_append same.symm]
  simp only [List.mem_append, or_imp, forall_and]

/-- Where all arguments land alike, all of them are accepted. -/
theorem Met.each {accepts : Landing → Value → Prop} {landings : List Landing}
    {arguments : List Value} (met : Met accepts landings arguments)
    (same : arguments.length = landings.length) {landing : Landing}
    (alike : ∀ other ∈ landings, other = landing) : ∀ value ∈ arguments, accepts landing value := by
  intro value member
  have arguments_eq : (landings.zip arguments).map Prod.snd = arguments :=
    List.map_snd_zip (Nat.le_of_eq same)
  rw [← arguments_eq] at member
  obtain ⟨landed, within, rfl⟩ := List.mem_map.mp member
  have accepted := met landed within
  rwa [alike landed.1 (List.of_mem_zip within).1] at accepted

/-- Placeholders of one clause land alike. -/
theorem mem_clauseLandings {dialect : Dialect} {use : PlaceholderUse} {subqueries : Bool}
    {text : Option String} {landing : Landing}
    (member : landing ∈ clauseLandings dialect use subqueries text) : landing ∈ use.landings := by
  obtain ⟨piece, -, inside⟩ := List.mem_flatMap.mp member
  split at inside
  · exact inside
  · cases inside

end PortableSql
