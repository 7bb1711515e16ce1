import PortableSql.Proofs.Exactly
import PortableSql.Proofs.Landing

/-!
# How commands bind their arguments

For each written command, the arguments it consumes and the line that is made of them are related
here by rules, one for each way to go on. Writing the command ends well exactly by these rules.
-/

namespace PortableSql

/-- An item consumes exactly these arguments and is written as the line. -/
inductive ItemBinds (dialect : Dialect) (subqueries : List (Except Failure Line)) :
    Item → List Value → Line → Prop
  | text {characters} : ItemBinds dialect subqueries (.text characters) [] [.text characters]
  | name {clause value quoted} : dialect.quotedValue (clause ++ " argument") value = .ok quoted →
    ItemBinds dialect subqueries (.placeholder clause .name) [value] (Line.ofText quoted)
  | value {clause value} :
    ItemBinds dialect subqueries (.placeholder clause .value) [value] [.marker (.infer value)]
  | subquery {digits line} : namedLine subqueries digits = .ok line →
    ItemBinds dialect subqueries (.subquery digits) []
      (Line.ofText "(" ++ line ++ Line.ofText ")")

/-- Items consume exactly these arguments and are written as the line. -/
inductive Binds (dialect : Dialect) (subqueries : List (Except Failure Line)) :
    List Item → List Value → Line → Prop
  | nil : Binds dialect subqueries [] [] []
  | cons {item items first rest line others} : ItemBinds dialect subqueries item first line →
    Binds dialect subqueries items rest others →
    Binds dialect subqueries (item :: items) (first ++ rest) (line ++ others)

section Binding

variable {dialect : Dialect} {subqueries : List (Except Failure Line)}

theorem ItemBinds.length_eq {item : Item} {consumed : List Value} {line : Line}
    (binds : ItemBinds dialect subqueries item consumed line) :
    consumed.length = item.landings.length := by
  cases binds <;> rfl

/-- Items consume one argument for each of their landings. -/
theorem Binds.length_eq {items : List Item} {consumed : List Value} {line : Line}
    (binds : Binds dialect subqueries items consumed line) :
    consumed.length = (landings items).length := by
  induction binds with
  | nil => rfl
  | cons first _ inductionHypothesis => simp [first.length_eq, inductionHypothesis]

theorem writeItem_exactly (item : Item) :
    (writeItem dialect subqueries item).Exactly (ItemBinds dialect subqueries item) := by
  cases item with
  | text characters =>
    refine (Writing.exactly_pure _).congr fun consumed written => ⟨?_, ?_⟩
    · rintro ⟨rfl, rfl⟩
      exact .text
    · rintro ⟨⟩
      exact ⟨rfl, rfl⟩
  | placeholder clause use => cases use with
    | refused =>
      refine (Writing.exactly_throw _).congr fun consumed written => ⟨False.elim, ?_⟩
      rintro ⟨⟩
    | name =>
      refine ((Writing.exactly_take clause).bind fun value =>
        (Writing.exactly_lift _).map Line.ofText).congr fun consumed written => ⟨?_, ?_⟩
      · rintro ⟨value, _, _, rfl, rfl, quoted, ⟨rfl, known⟩, rfl⟩
        exact .name known
      · rintro ⟨⟩
        rename_i value quoted known
        exact ⟨value, [value], [], rfl, rfl, quoted, ⟨rfl, known⟩, rfl⟩
    | value =>
      refine ((Writing.exactly_take clause).bind fun value =>
        Writing.exactly_pure _).congr fun consumed written => ⟨?_, ?_⟩
      · rintro ⟨value, _, _, rfl, rfl, rfl, rfl⟩
        exact .value
      · rintro ⟨⟩
        exact ⟨_, [_], [], rfl, rfl, rfl, rfl⟩
  | subquery digits =>
    refine ((Writing.exactly_lift _).bind fun line =>
      Writing.exactly_pure _).congr fun consumed written => ⟨?_, ?_⟩
    · rintro ⟨line, _, _, rfl, ⟨rfl, known⟩, rfl, rfl⟩
      exact .subquery known
    · rintro ⟨⟩
      rename_i line known
      exact ⟨line, [], [], rfl, ⟨rfl, known⟩, rfl, rfl⟩

/-- Writing items ends well exactly when they bind a beginning of the arguments that are left. -/
theorem writeItems_exactly (items : List Item) :
    (writeItems dialect subqueries items).Exactly (Binds dialect subqueries items) := by
  induction items with
  | nil =>
    refine (Writing.exactly_pure _).congr fun consumed written => ⟨?_, ?_⟩
    · rintro ⟨rfl, rfl⟩
      exact .nil
    · rintro ⟨⟩
      exact ⟨rfl, rfl⟩
  | cons item rest inductionHypothesis =>
    refine ((writeItem_exactly item).bind fun line => inductionHypothesis.bind fun others =>
      Writing.exactly_pure (line ++ others)).congr fun consumed written => ⟨?_, ?_⟩
    · rintro ⟨line, begun, _, rfl, binds, others, more, _, rfl, bindsRest, rfl, rfl⟩
      rw [List.append_nil]
      exact .cons binds bindsRest
    · rintro ⟨⟩
      rename_i begun more line others binds bindsRest
      exact ⟨line, begun, more, rfl, binds, others, more, [], (List.append_nil _).symm,
        bindsRest, rfl, rfl⟩

end Binding

namespace Binds

variable {dialect : Dialect} {subqueries : List (Except Failure Line)}

/-- Items that follow each other bind what each part of them binds. -/
theorem append_inv {items others : List Item} {consumed : List Value} {line : Line}
    (binds : Binds dialect subqueries (items ++ others) consumed line) :
    ∃ first second begun following, consumed = first ++ second ∧ line = begun ++ following ∧
      Binds dialect subqueries items first begun ∧
      Binds dialect subqueries others second following := by
  induction items generalizing consumed line with
  | nil => exact ⟨[], consumed, [], line, rfl, rfl, .nil, binds⟩
  | cons item rest inductionHypothesis =>
    obtain _ | ⟨bindsFirst, bindsRest⟩ := binds
    obtain ⟨first, second, begun, following, rfl, rfl, left, right⟩ :=
      inductionHypothesis bindsRest
    exact ⟨_, second, _, following, (List.append_assoc ..).symm, (List.append_assoc ..).symm,
      .cons bindsFirst left, right⟩

/-- A text in front of items is written in front of what they are written as. -/
theorem text_inv {characters : List Char} {items : List Item} {consumed : List Value}
    {line : Line} (binds : Binds dialect subqueries (.text characters :: items) consumed line) :
    ∃ following, line = .text characters :: following ∧
      Binds dialect subqueries items consumed following := by
  obtain _ | ⟨⟨⟩, others⟩ := binds
  exact ⟨_, rfl, others⟩

end Binds

/-- A part of a limit consumes exactly these arguments and is the number. -/
inductive PartBinds : List Char → List Value → Int → Prop
  | written {part number} : part ≠ ['?'] → Text.integer (String.ofList part) = .ok number →
    PartBinds part [] number
  | argument {value number} : limitArgument value = .ok number → PartBinds ['?'] [value] number

/-- A limit consumes exactly these arguments and is an offset and a count. -/
inductive LimitBinds : Option Limit → List Value → Option (Int × Int) → Prop
  | none : LimitBinds none [] none
  | count {rows} : LimitBinds (some (.count rows)) [] (some (0, rows))
  | written {limit consumed numbers} : Sequence PartBinds (limitParts limit) consumed numbers →
    LimitBinds (some (.written limit)) consumed (limitOf numbers)

theorem PartBinds.length_eq {part : List Char} {consumed : List Value} {number : Int}
    (binds : PartBinds part consumed number) :
    consumed.length = (if part = ['?'] then [Landing.limit] else []).length := by
  cases binds with
  | written other _ => rw [if_neg other]; rfl
  | argument _ => rfl

/-- A limit consumes one argument for each of its landings. -/
theorem LimitBinds.length_eq {limit : Option Limit} {consumed : List Value}
    {numbers : Option (Int × Int)} (binds : LimitBinds limit consumed numbers) :
    consumed.length = (limitLandings limit).length := by
  cases binds with
  | none | count => rfl
  | @written limit consumed numbers sequence =>
    simp only [limitLandings]
    generalize limitParts limit = parts at sequence ⊢
    induction sequence with
    | nil => rfl
    | cons first _ inductionHypothesis =>
      rw [List.flatMap_cons, List.length_append, List.length_append, first.length_eq,
        inductionHypothesis]

theorem readLimitPart_exactly (part : List Char) :
    (readLimitPart part).Exactly (PartBinds part) := by
  unfold readLimitPart
  by_cases mark : part = ['?']
  · subst mark
    refine ((Writing.exactly_take "LIMIT").bind fun value =>
      Writing.exactly_lift (limitArgument value)).congr fun consumed written => ⟨?_, ?_⟩
    · rintro ⟨value, _, _, rfl, rfl, rfl, known⟩
      exact .argument known
    · rintro (⟨wrong, _⟩ | known)
      · exact absurd rfl wrong
      · exact ⟨_, [_], [], rfl, rfl, rfl, known⟩
  · rw [if_neg mark]
    refine (Writing.exactly_lift _).congr fun consumed written => ⟨?_, ?_⟩
    · rintro ⟨rfl, known⟩
      exact .written mark known
    · rintro (⟨_, known⟩ | _)
      · exact ⟨rfl, known⟩
      · exact absurd rfl mark

theorem readLimit_exactly (limit : Option Limit) :
    (readLimit limit).Exactly (LimitBinds limit) := by
  cases limit with
  | none =>
    refine (Writing.exactly_pure _).congr fun consumed written => ⟨?_, ?_⟩
    · rintro ⟨rfl, rfl⟩
      exact .none
    · rintro ⟨⟩
      exact ⟨rfl, rfl⟩
  | some limit => cases limit with
    | count rows =>
      refine (Writing.exactly_pure _).congr fun consumed written => ⟨?_, ?_⟩
      · rintro ⟨rfl, rfl⟩
        exact .count
      · rintro ⟨⟩
        exact ⟨rfl, rfl⟩
    | written limit =>
      refine ((exactly_mapM _ _ readLimitPart_exactly (limitParts limit)).map limitOf).congr
        fun consumed written => ⟨?_, ?_⟩
      · rintro ⟨numbers, related, rfl⟩
        exact .written related
      · rintro ⟨⟩
        rename_i numbers related
        exact ⟨numbers, related, rfl⟩

/-- The offset and the count of a limit whose arguments begin at the position, if it can be read. -/
def limitAt (position : Nat) (arguments : List Value) (limit : Option Limit) :
    Option (Int × Int) :=
  match (readLimit limit).run { values := arguments, position, command := "" } with
  | .ok (numbers, _) => numbers
  | .error _ => none

/-- The numbers of a limit are read from the arguments that it consumes. -/
theorem LimitBinds.limitAt_eq {limit : Option Limit} {consumed : List Value}
    {numbers : Option (Int × Int)} (binds : LimitBinds limit consumed numbers)
    (begun others : List Value) :
    limitAt begun.length (begun ++ (consumed ++ others)) limit = numbers := by
  have left : Arguments.left
      { values := begun ++ (consumed ++ others), position := begun.length, command := "" } =
        consumed ++ others := List.drop_left
  have ran := (readLimit_exactly limit _ _ numbers).mpr ⟨consumed, others, left, rfl, binds⟩
  unfold limitAt
  rw [ran]

/-- A select consumes exactly these arguments and is written as the line with the row filter. -/
def SelectBinds (dialect : Dialect) (nested : Bool) (into : Option String)
    (subqueries : List (Except Failure Line)) (select : Select) (consumed : List Value)
    (written : Line × Option RowFilter) : Prop :=
  ∃ clauses limit body numbers, consumed = clauses ++ limit ∧
    Binds dialect subqueries (select.items dialect into) clauses body ∧
    LimitBinds select.limit limit numbers ∧ LimitWritable dialect nested numbers ∧
    written = limited dialect nested body numbers

theorem writeSelect_exactly (dialect : Dialect) (nested : Bool) (into : Option String)
    (subqueries : List (Except Failure Line)) (select : Select) :
    (writeSelect dialect nested into subqueries select).Exactly
      (SelectBinds dialect nested into subqueries select) := by
  refine ((writeItems_exactly _).bind fun body => (readLimit_exactly select.limit).bind
    fun limit => Writing.exactly_lift (writeLimit dialect nested body limit)).congr
    fun consumed written => ⟨?_, ?_⟩
  · rintro ⟨body, clauses, _, rfl, binds, numbers, limit, _, rfl, limits, rfl, known⟩
    rw [List.append_nil]
    exact ⟨clauses, limit, body, numbers, rfl, binds, limits, writeLimit_ok.mp known⟩
  · rintro ⟨clauses, limit, body, numbers, rfl, binds, limits, known⟩
    exact ⟨body, clauses, limit, rfl, binds, numbers, limit, [], (List.append_nil _).symm, limits,
      rfl, writeLimit_ok.mpr known⟩

/-- A select is written from its arguments exactly when it binds all of them. -/
theorem assembledLine_ok {dialect : Dialect} {nested : Bool} {into : Option String}
    {subqueries : List (Except Failure Line)} {select : Select}
    {written : Line × Option RowFilter} :
    assembledLine dialect nested into subqueries select = .ok written ↔
      SelectBinds dialect nested into subqueries select select.args written :=
  (writeSelect_exactly dialect nested into subqueries select).finish

/-- The restrictions of a change consume exactly these arguments and are written as the line. -/
def RestrictionsBind (dialect : Dialect) (tag : Tag) (condition ordering : Option String)
    (limit : Option Limit) (consumed : List Value) (line : Line) : Prop :=
  ∃ first second third selected ordered numbers limitText,
    consumed = first ++ (second ++ third) ∧
    Binds dialect [] (optionalItems dialect "WHERE" .value false condition) first selected ∧
    Binds dialect [] (optionalItems dialect "ORDER BY" .name false ordering) second ordered ∧
    LimitBinds limit third numbers ∧ restrictionLimit dialect tag limit numbers = .ok limitText ∧
    line = if dialect.table.updateLimit then selected ++ ordered ++ Line.ofText limitText
      else selected

theorem writeRestrictions_exactly (dialect : Dialect) (tag : Tag)
    (condition ordering : Option String) (limit : Option Limit) :
    (writeRestrictions dialect tag condition ordering limit).Exactly
      (RestrictionsBind dialect tag condition ordering limit) := by
  refine ((writeItems_exactly _).bind fun selected => (writeItems_exactly _).bind fun ordered =>
    (readLimit_exactly limit).bind fun numbers => (Writing.exactly_lift _).bind fun limitText =>
    Writing.exactly_pure _).congr fun consumed written => ⟨?_, ?_⟩
  · rintro ⟨selected, first, _, rfl, wheres, ordered, second, _, rfl, orders, numbers, third, _,
      rfl, limits, limitText, _, _, rfl, ⟨rfl, known⟩, rfl, rfl⟩
    exact ⟨first, second, third, selected, ordered, numbers, limitText, by simp, wheres, orders,
      limits, known, rfl⟩
  · rintro ⟨first, second, third, selected, ordered, numbers, limitText, rfl, wheres, orders,
      limits, known, rfl⟩
    exact ⟨selected, first, _, rfl, wheres, ordered, second, _, rfl, orders, numbers, third, [],
      by simp, limits, limitText, [], [], rfl, ⟨rfl, known⟩, rfl, rfl⟩

/-- The assignment of a value is written as the line; it consumes no arguments. -/
inductive Assigns (dialect : Dialect) (column : String) : Value → Line → Prop
  | reset {quoted} : dialect.quoted "identifier" column = .ok quoted →
    dialect.table.updateDefaultKeyword = true →
    Assigns dialect column (.bool true) (Line.ofText quoted ++ Line.ofText " = DEFAULT")
  | null {quoted} : dialect.quoted "identifier" column = .ok quoted →
    Assigns dialect column (.bool false) (Line.ofText quoted ++ Line.ofText " = NULL")
  | value {quoted value} : dialect.quoted "identifier" column = .ok quoted →
    (∀ truth, value ≠ .bool truth) →
    Assigns dialect column value
      (Line.ofText quoted ++ Line.ofText " = " ++ [.marker (.infer value)])

theorem writeAssignment_exactly (dialect : Dialect) (column : String) (value : Value) :
    (writeAssignment dialect column value).Exactly fun consumed line =>
      consumed = [] ∧ Assigns dialect column value line := by
  have bound : (∀ truth, value ≠ .bool truth) → Writing.Exactly
      (do
        let quoted ← dialect.quoted "identifier" column
        pure (Line.ofText quoted ++ Line.ofText " = " ++ [.marker (.infer value)]))
      fun consumed line => consumed = [] ∧ Assigns dialect column value line := by
    intro other
    refine ((Writing.exactly_lift _).bind fun quoted => Writing.exactly_pure _).congr
      fun consumed line => ⟨?_, ?_⟩
    · rintro ⟨quoted, _, _, rfl, ⟨rfl, known⟩, rfl, rfl⟩
      exact ⟨rfl, .value known other⟩
    · rintro ⟨rfl, ⟨_, _⟩ | ⟨_⟩ | ⟨known, _⟩⟩
      · exact absurd rfl (other true)
      · exact absurd rfl (other false)
      · exact ⟨_, [], [], rfl, ⟨rfl, known⟩, rfl, rfl⟩
  cases value with
  | bool truth => cases truth with
    | false =>
      refine ((Writing.exactly_lift _).bind fun quoted => Writing.exactly_pure _).congr
        fun consumed line => ⟨?_, ?_⟩
      · rintro ⟨quoted, _, _, rfl, ⟨rfl, known⟩, rfl, rfl⟩
        exact ⟨rfl, .null known⟩
      · rintro ⟨rfl, _ | ⟨known⟩ | ⟨_, other⟩⟩
        · exact ⟨_, [], [], rfl, ⟨rfl, known⟩, rfl, rfl⟩
        · exact absurd rfl (other false)
    | true =>
      unfold writeAssignment
      by_cases keyword : dialect.table.updateDefaultKeyword
      · simp only [keyword, if_true]
        refine ((Writing.exactly_lift _).bind fun quoted => Writing.exactly_pure _).congr
          fun consumed line => ⟨?_, ?_⟩
        · rintro ⟨quoted, _, _, rfl, ⟨rfl, known⟩, rfl, rfl⟩
          exact ⟨rfl, .reset known keyword⟩
        · rintro ⟨rfl, ⟨known, _⟩ | _ | ⟨_, other⟩⟩
          · exact ⟨_, [], [], rfl, ⟨rfl, known⟩, rfl, rfl⟩
          · exact absurd rfl (other true)
      · simp only [keyword, Bool.false_eq_true, if_false]
        refine ((Writing.exactly_lift _).bind fun quoted => Writing.exactly_throw _).congr
          fun consumed line => ⟨?_, ?_⟩
        · rintro ⟨_, _, _, _, _, wrong⟩
          exact wrong.elim
        · rintro ⟨rfl, ⟨_, wrong⟩ | _ | ⟨_, other⟩⟩
          · exact absurd wrong keyword
          · exact absurd rfl (other true)
  | _ => exact bound (fun truth wrong => nomatch wrong)

/-- The assignment of a fragment is written as the line; it consumes no arguments. -/
def Joins (dialect : Dialect) (column fragment : String) (line : Line) : Prop :=
  ∃ quoted, fragmentAllowed dialect column fragment = .ok () ∧
    dialect.quoted "identifier" column = .ok quoted ∧
    line = Line.ofText quoted ++ Line.ofText " = " ++ Line.ofText fragment

theorem writeFragment_exactly (dialect : Dialect) (column fragment : String) :
    (writeFragment dialect column fragment).Exactly fun consumed line =>
      consumed = [] ∧ Joins dialect column fragment line := by
  refine ((Writing.exactly_lift _).bind fun _ => (Writing.exactly_lift _).bind fun quoted =>
    Writing.exactly_pure _).congr fun consumed line => ⟨?_, ?_⟩
  · rintro ⟨_, _, _, rfl, ⟨rfl, allowed⟩, quoted, _, _, rfl, ⟨rfl, known⟩, rfl, rfl⟩
    exact ⟨rfl, quoted, allowed, known, rfl⟩
  · rintro ⟨rfl, quoted, allowed, known, rfl⟩
    exact ⟨(), [], [], rfl, ⟨rfl, allowed⟩, quoted, [], [], rfl, ⟨rfl, known⟩, rfl, rfl⟩

/-- An update consumes exactly these arguments and is written as the line. -/
def UpdateBinds (dialect : Dialect) (update : Update) (consumed : List Value) (line : Line) :
    Prop :=
  ∃ values fragments table restrictions,
    List.Forall₂ (fun entry => Assigns dialect entry.1 entry.2) update.values values ∧
    List.Forall₂ (fun entry => Joins dialect entry.1 entry.2) update.inline fragments ∧
    dialect.quoted "table" update.table = .ok table ∧
    RestrictionsBind dialect .update update.condition update.ordering update.limit consumed
      restrictions ∧
    line = Line.ofText "UPDATE " ++ Line.ofText table ++ Line.ofText " SET " ++
      Line.listed (values ++ fragments) ++ restrictions

/-- An update is written from its arguments exactly when it binds all of them. -/
theorem updateLine_ok {dialect : Dialect} {update : Update} {line : Line} :
    (writeUpdate dialect update).finish update.args "UPDATE" = .ok line ↔
      UpdateBinds dialect update update.args line := by
  have values := exactly_mapM_nil
    (fun entry : String × Value => writeAssignment_exactly dialect entry.1 entry.2) update.values
  have fragments := exactly_mapM_nil
    (fun entry : String × String => writeFragment_exactly dialect entry.1 entry.2) update.inline
  refine ((values.bind fun _ => fragments.bind fun _ => (Writing.exactly_lift _).bind fun _ =>
    (writeRestrictions_exactly _ _ _ _ _).bind fun _ => Writing.exactly_pure _).congr
    fun consumed line => ⟨?_, ?_⟩).finish
  · rintro ⟨values, _, _, rfl, ⟨rfl, assigned⟩, fragments, _, _, rfl, ⟨rfl, joined⟩, table, _, _,
      rfl, ⟨rfl, known⟩, restrictions, begun, _, rfl, restricted, rfl, rfl⟩
    rw [List.append_nil]
    exact ⟨values, fragments, table, restrictions, assigned, joined, known, restricted, rfl⟩
  · rintro ⟨values, fragments, table, restrictions, assigned, joined, known, restricted, rfl⟩
    exact ⟨values, [], consumed, rfl, ⟨rfl, assigned⟩, fragments, [], consumed, rfl,
      ⟨rfl, joined⟩, table, [], consumed, rfl, ⟨rfl, known⟩, restrictions, consumed, [],
      (List.append_nil _).symm, restricted, rfl, rfl⟩

/-- A delete consumes exactly these arguments and is written as the line. -/
def DeleteBinds (dialect : Dialect) (delete : Delete) (consumed : List Value) (line : Line) :
    Prop :=
  ∃ table restrictions, dialect.quoted "table" delete.table = .ok table ∧
    RestrictionsBind dialect .delete delete.condition delete.ordering delete.limit consumed
      restrictions ∧
    line = Line.ofText "DELETE FROM " ++ Line.ofText table ++ restrictions

/-- A delete is written from its arguments exactly when it binds all of them. -/
theorem deleteLine_ok {dialect : Dialect} {delete : Delete} {line : Line} :
    (writeDelete dialect delete).finish delete.args "DELETE" = .ok line ↔
      DeleteBinds dialect delete delete.args line := by
  refine (((Writing.exactly_lift _).bind fun _ => (writeRestrictions_exactly _ _ _ _ _).bind
    fun _ => Writing.exactly_pure _).congr fun consumed line => ⟨?_, ?_⟩).finish
  · rintro ⟨table, _, _, rfl, ⟨rfl, known⟩, restrictions, begun, _, rfl, restricted, rfl, rfl⟩
    rw [List.append_nil]
    exact ⟨table, restrictions, known, restricted, rfl⟩
  · rintro ⟨table, restrictions, known, restricted, rfl⟩
    exact ⟨table, [], consumed, rfl, ⟨rfl, known⟩, restrictions, consumed, [],
      (List.append_nil _).symm, restricted, rfl, rfl⟩

/-- The setting of a variable consumes exactly these arguments and is written as the line. -/
def SetBinds (dialect : Dialect) (setting : SetVariable) (consumed : List Value) (line : Line) :
    Prop :=
  ∃ body, Binds dialect []
      (clauseItems dialect "SET" (settingUse dialect) false setting.statement) consumed body ∧
    line = Line.ofText dialect.table.setKeyword ++ Line.ofText " " ++ body

/-- The setting of a variable is written from its arguments exactly when it binds all of them. -/
theorem setLine_ok {dialect : Dialect} {setting : SetVariable} {line : Line} :
    (writeSet dialect setting).finish setting.args "SET" = .ok line ↔
      SetBinds dialect setting setting.args line := by
  refine (((writeItems_exactly _).bind fun _ => Writing.exactly_pure _).congr
    fun consumed line => ⟨?_, ?_⟩).finish
  · rintro ⟨body, begun, _, rfl, binds, rfl, rfl⟩
    rw [List.append_nil]
    exact ⟨body, binds, rfl⟩
  · rintro ⟨body, binds, rfl⟩
    exact ⟨body, consumed, [], (List.append_nil _).symm, binds, rfl, rfl⟩

end PortableSql
