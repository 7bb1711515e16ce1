import PortableSql.Payload.Command
import PortableSql.Proofs.Cutting
import PortableSql.Proofs.Field

/-!
# Definitions and limits that are read again

Readers that tidy what they are given leave what they tidied before: a limit without surrounding
white space, a spelling in capitals, a single name as a list. The short forms of columns and keys
are read as fields, so that it is enough to read fields again.
-/

namespace PortableSql

/-! ## White space around a limit -/

namespace Text

/-- White space is no digit. -/
theorem not_isDecimal_of_isBlank {character : Char} (blank : isBlank character = true) :
    isDecimal character = false := by
  have checked : ∀ code ∈ blanks, isDecimal (Char.ofNat code) = false := by decide
  rw [← Char.ofNat_toNat character]
  exact checked _ (List.contains_iff_mem.mp blank)

end Text

/-- A column definition as its payload tells it: a default of null is no default. -/
def ColumnDefinition.settled (definition : ColumnDefinition) : ColumnDefinition :=
  { definition with default? := settledDefault definition.default? }
where
  /-- A default that is not null. -/
  settledDefault : Option Value → Option Value
    | some .null => none
    | default? => default?

/-- A column definition by the values of its fields: without a default, the default is null. -/
def ColumnDefinition.declared (definition : ColumnDefinition) : ColumnDefinition :=
  { definition with default? := some (definition.default?.getD .null) }

theorem ColumnDefinition.declared_settled (definition : ColumnDefinition) :
    definition.settled.declared = definition.declared := by
  obtain ⟨_, _, _, _, default?, _, _, _, _, _, _, _⟩ := definition
  rcases default? with _ | _ | _ <;> rfl

/-- Whether a definition is refused does not depend on its default. -/
theorem ColumnDefinition.refusal?_settled (definition : ColumnDefinition) :
    definition.settled.refusal? = definition.refusal? := by
  have type : definition.settled.type = definition.type := rfl
  have size : definition.settled.size = definition.size := rfl
  have sizeOr : ∀ usual, definition.settled.sizeOr usual = definition.sizeOr usual := fun _ => rfl
  have precision : definition.settled.precision = definition.precision := rfl
  have scale : definition.settled.scale = definition.scale := rfl
  have sizes : definition.settled.sizeFault? = definition.sizeFault? := by
    unfold sizeFault?
    simp only [type, size, sizeOr, precision, scale]
  unfold refusal?
  rw [sizes]
  rfl

namespace Payload

/-- What stands in front of white space; nothing when it is nothing. -/
def before (tail : List Char) (characters : List Char) : List Char :=
  if characters = [] then [] else characters ++ tail

theorem dropWhile_append_blank {tail : List Char}
    (blank : ∀ character ∈ tail, Text.isBlank character = true) (characters : List Char) :
    (characters ++ tail).dropWhile Text.isBlank =
      before tail (characters.dropWhile Text.isBlank) := by
  rw [List.dropWhile_append, List.dropWhile_eq_nil_iff.mpr blank, before]
  simp

theorem afterCount?_dropWhile (characters : List Char) :
    afterCount? (characters.dropWhile Text.isBlank) = afterCount? characters := by
  unfold afterCount?
  rw [List.dropWhile_idempotent]

theorem afterCount?_nil {characters : List Char}
    (begins : characters.dropWhile Text.isBlank = []) : afterCount? characters = none := by
  rw [afterCount?, begins]
  rfl

theorem afterCount?_mark {characters rest : List Char}
    (begins : characters.dropWhile Text.isBlank = '?' :: rest) :
    afterCount? characters = some (rest.dropWhile Text.isBlank) := by
  rw [afterCount?, begins]
  rfl

theorem afterCount?_other {characters rest : List Char} {first : Char}
    (begins : characters.dropWhile Text.isBlank = first :: rest) (other : first ≠ '?') :
    afterCount? characters = if Text.isDecimal first then
      some ((rest.dropWhile Text.isDecimal).dropWhile Text.isBlank) else none := by
  have shorter : (rest.dropWhile Text.isDecimal).length < (first :: rest).length :=
    Nat.lt_succ_of_le (List.length_dropWhile_le _ _)
  rw [afterCount?, begins]
  split
  case h_1 same =>
    cases same
    exact absurd rfl other
  case h_2 =>
    by_cases digit : Text.isDecimal first = true
    · simp only [List.dropWhile_cons_of_pos digit, if_pos shorter, if_pos digit]
    · simp only [List.dropWhile_cons_of_neg digit, Nat.lt_irrefl, if_neg digit, if_false]

/-- White space that follows stays behind what follows a count. -/
theorem afterCount?_append {tail : List Char}
    (blank : ∀ character ∈ tail, Text.isBlank character = true) (characters : List Char) :
    afterCount? (characters ++ tail) = (afterCount? characters).map (before tail) := by
  have digitless : tail.dropWhile Text.isDecimal = tail := by
    cases tail with
    | nil => rfl
    | cons first rest =>
      refine List.dropWhile_cons_of_neg ?_
      rw [Text.not_isDecimal_of_isBlank (blank first List.mem_cons_self)]
      exact Bool.false_ne_true
  have digits : ∀ rest : List Char,
      (rest ++ tail).dropWhile Text.isDecimal = rest.dropWhile Text.isDecimal ++ tail := by
    intro rest
    rw [List.dropWhile_append, digitless]
    cases rest.dropWhile Text.isDecimal <;> rfl
  have skipped := dropWhile_append_blank blank
  have begun := skipped characters
  cases begins : characters.dropWhile Text.isBlank with
  | nil =>
    rw [begins] at begun
    rw [afterCount?_nil begins, afterCount?_nil begun]
    rfl
  | cons first rest =>
    rw [begins, before, if_neg (List.cons_ne_nil _ _), List.cons_append] at begun
    by_cases mark : first = '?'
    case pos =>
      subst mark
      rw [afterCount?_mark begins, afterCount?_mark begun, skipped]
      rfl
    case neg =>
      rw [afterCount?_other begins mark, afterCount?_other begun mark, digits, skipped]
      split <;> rfl

/-- White space around a limit does not matter. -/
theorem isLimitText_trimmed (limit : String) :
    isLimitText (Text.trimmed limit) = isLimitText limit := by
  obtain ⟨tail, blank, whole⟩ := Text.exists_blank_trim limit.toList
  have same : afterCount? limit.toList =
      (afterCount? (Text.trim limit.toList)).map (before tail) := by
    rw [← afterCount?_dropWhile, whole, afterCount?_append blank]
  rw [isLimitText, isLimitText, Text.trimmed, String.toList_ofList, same]
  cases afterCount? (Text.trim limit.toList) with
  | none => rfl
  | some rest =>
    cases rest with
    | nil => rfl
    | cons first others =>
      rw [Option.map_some, before, if_neg (List.cons_ne_nil _ _), List.cons_append]
      by_cases comma : first = ','
      case pos =>
        subst comma
        have ends : (afterCount? (others ++ tail) == some []) =
            (afterCount? others == some []) := by
          rw [afterCount?_append blank]
          rcases afterCount? others with _ | _ | ⟨first, rest⟩ <;> rfl
        exact ends.symm
      case neg => simp [comma]

/-! ## Readers that tidy -/

theorem rereads_limit : RereadsGiven readLimit Limit.value := by
  intro value limit accepted
  unfold readLimit at accepted
  split at accepted
  case h_1 => cases accepted
  case h_2 => cases accepted
  case h_3 number =>
    split at accepted
    case isTrue negative => cases accepted
    case isFalse positive =>
      cases accepted
      exact if_neg positive
  case h_4 characters =>
    split at accepted
    case isTrue shaped =>
      cases accepted
      rw [← isLimitText_trimmed] at shaped
      rw [Limit.value, readLimit, if_pos shaped, Text.trimmed_trimmed]
    case isFalse => cases accepted
  case h_5 => cases accepted

/-- Columns are read again, unless they are an empty list of names. -/
theorem readColumnList_written {columns : ColumnList} (listed : columns ≠ .names []) :
    readColumnList (writeColumnList columns) = .accepted columns := by
  cases columns with
  | text columns => rfl
  | names columns =>
    cases columns with
    | nil => exact absurd rfl listed
    | cons first rest =>
      have reads := readTexts_written (first :: rest)
      have offered : itemsOf? (texts (first :: rest)) = some (.text first :: rest.map .text) := rfl
      rw [writeColumnList, readColumnList, offered, reads]
      rfl

theorem rereads_kind : Rereads (readSpelling (ValueKind.all.map ValueKind.spelling)
    ValueKind.ofSpelling?) fun kind => .text kind.spelling := by
  intro _ kind _
  cases kind <;> rfl

theorem rereads_action : RereadsGiven readAction .text := by
  intro value action accepted
  obtain ⟨action?, -, known⟩ := Checked.andThen_accepted.mp accepted
  cases action? with
  | none => cases known
  | some given =>
    dsimp only at known
    split at known
    case isTrue listed =>
      obtain rfl := Option.some.inj (Checked.accepted.inj known)
      have tidy : ∀ action ∈ referentialActions,
          Text.collapsed (Text.upper action) = action := by decide
      have again := tidy _ (List.contains_iff_mem.mp listed)
      refine Checked.andThen_accepted.mpr ⟨some _, rfl, ?_⟩
      dsimp only
      rw [again, if_pos listed]
    case isFalse => cases known

/-- Names of character sets are read again. -/
theorem readCharset_written {entries written : Entries} {key : Key} {name? : Option String}
    (accepted : readCharset entries key = .accepted name?)
    (found : key.Found written (name?.map .text)) : readCharset written key = .accepted name? := by
  refine optional_given found fun name same => ?_
  subst same
  rcases optional_accepted accepted with wrong | ⟨given, known⟩
  · cases wrong
  · have unrefused := Checked.checkedBy_unrefused known
    refine Checked.andThen_accepted.mpr ⟨some name, rfl, ?_⟩
    dsimp only at unrefused ⊢
    rw [unrefused]

/-! ## References -/

theorem readReference_written {entries : Entries} {reference : ColumnReference}
    (accepted : readReferenceFields entries = .accepted reference) :
    readReference (writeReference reference) = .accepted reference := by
  obtain ⟨fields, -⟩ := modelOf_accepted accepted
  obtain ⟨_, _, toTable, column, rfl⟩ := Checked.seq_accepted.mp fields
  obtain ⟨_, table, rfl⟩ := Checked.map_accepted.mp toTable
  rw [writeReference, readReference, readReferenceFields]
  refine modelOf_of (Checked.seq_of (Checked.map_of ?table) ?column) (by simp) rfl
  case table => exact required_rereads rereads_fullText table (by simp)
  case column => exact required_rereads rereads_fullText column (by simp)

theorem rereads_reference : Rereads readReference writeReference := by
  intro value reference accepted
  cases value with
  | text short =>
    rw [readReference] at accepted
    split at accepted
    · exact readReference_written accepted
    · cases accepted
  | dictionary entries => exact readReference_written accepted
  | _ => cases accepted

theorem readKeyReference_written {entries : Entries} {reference : KeyReference}
    (accepted : readKeyReferenceFields entries = .accepted reference) :
    readKeyReference (writeKeyReference reference) = .accepted reference := by
  obtain ⟨fields, -⟩ := modelOf_accepted accepted
  obtain ⟨_, _, toTable, columns, rfl⟩ := Checked.seq_accepted.mp fields
  obtain ⟨_, table, rfl⟩ := Checked.map_accepted.mp toTable
  rw [writeKeyReference, readKeyReference, readKeyReferenceFields]
  refine modelOf_of (Checked.seq_of (Checked.map_of ?table) ?columns) (by simp) rfl
  case table => exact required_rereads rereads_fullText table (by simp)
  case columns => exact required_rereads rereads_fullTexts columns (by simp)

theorem rereads_keyReference : Rereads readKeyReference writeKeyReference := by
  intro value reference accepted
  cases value with
  | dictionary entries => exact readKeyReference_written accepted
  | _ => cases accepted

/-! ## Columns and keys -/

theorem writeDefault_eq (default? : Option Value) : writeColumn.writeDefault default? =
    given "DEFAULT" (ColumnDefinition.settled.settledDefault default?) id := by
  rcases default? with _ | _ | _ <;> rfl

theorem readType_written (type : ColumnType) :
    readSpelling (ColumnType.all.map ColumnType.spelling) ColumnType.ofSpelling?
      (normalSpelling (.text type.spelling)) = .accepted type := by
  cases type <;> rfl

theorem readColumnFields_written {entries : Entries} {definition : ColumnDefinition}
    (accepted : readColumnFields entries = .accepted definition) :
    readColumn (writeColumn definition) = .accepted definition.settled := by
  have unrefused := definition.refusal?_settled.trans (modelOf_unrefused accepted)
  obtain ⟨fields, -⟩ := modelOf_accepted accepted
  simp only [Checked.seq_accepted] at fields
  obtain ⟨_, _, ⟨_, _, ⟨_, _, ⟨_, _, ⟨_, _, ⟨_, _, ⟨_, _, ⟨_, _, ⟨_, _, ⟨_, _, ⟨_, _, toType, size,
    rfl⟩, length, rfl⟩, notNull, rfl⟩, default, rfl⟩, primaryKey, rfl⟩, uniqueKey, rfl⟩,
    autoIncrement, rfl⟩, unsigned, rfl⟩, fixed, rfl⟩, comment, rfl⟩, references, rfl⟩ := fields
  obtain ⟨_, -, rfl⟩ := Checked.map_accepted.mp toType
  have sizes := rereads_nullable (rereads_intFrom 1) fun _ => nofun
  have lengths := rereads_nullable (rereads_intFrom 0) fun _ => nofun
  have comments := rereads_nullable rereads_text fun _ => nofun
  have targets := rereads_nullable rereads_reference fun _ => nofun
  rw [writeColumn, writeDefault_eq, readColumn, readColumnFields]
  simp only [ColumnDefinition.settled] at unrefused ⊢
  refine modelOf_of (Checked.seq_of (Checked.seq_of (Checked.seq_of (Checked.seq_of (Checked.seq_of
    (Checked.seq_of (Checked.seq_of (Checked.seq_of (Checked.seq_of (Checked.seq_of (Checked.seq_of
    (Checked.map_of ?type) ?size) ?length) ?notNull) ?default) ?primaryKey) ?uniqueKey)
    ?autoIncrement) ?unsigned) ?fixed) ?comment) ?references) (by simp [columnKeys]) unrefused
  case type => exact required_found (by simp) (readType_written _)
  case size => exact optional_rereads sizes size (by simp)
  case length => exact optional_rereads lengths length (by simp)
  case default => exact optional_given (by simp) fun _ _ => rfl
  case comment => exact optional_rereads comments comment (by simp)
  case references => exact optional_rereads targets references (by simp)
  all_goals exact optional_switched (by simp)

/-- Every form of a column definition is read as fields. -/
theorem readColumn_accepted {value : Value} {definition : ColumnDefinition}
    (accepted : readColumn value = .accepted definition) :
    ∃ entries, readColumnFields entries = .accepted definition := by
  unfold readColumn at accepted
  split at accepted
  case h_1 => exact ⟨_, accepted⟩
  case h_2 => exact ⟨_, accepted⟩
  case h_3 =>
    split at accepted
    case h_1 => cases accepted
    case h_2 => cases accepted
    case h_3 =>
      dsimp only at accepted
      split at accepted
      case h_1 => cases accepted
      case h_5 => cases accepted
      all_goals exact ⟨_, accepted⟩

theorem rereads_column : Rereads readColumn writeColumn ColumnDefinition.settled := by
  intro value definition accepted
  obtain ⟨entries, fields⟩ := readColumn_accepted accepted
  exact readColumnFields_written fields

theorem readKeyType_written (type : KeyType) :
    readSpelling (KeyType.all.map KeyType.spelling) KeyType.ofSpelling?
      (keySpelling (.text type.spelling)) = .accepted type := by
  cases type <;> rfl

theorem readKeyFields_written {entries : Entries} {key : KeyDefinition}
    (accepted : readKeyFields entries = .accepted key) :
    readKey (writeKey key) = .accepted key := by
  have unrefused := modelOf_unrefused accepted
  obtain ⟨fields, -⟩ := modelOf_accepted accepted
  simp only [Checked.seq_accepted] at fields
  obtain ⟨_, _, ⟨_, _, ⟨_, _, ⟨_, _, ⟨_, _, toType, columns, rfl⟩, name, rfl⟩, references, rfl⟩,
    onDelete, rfl⟩, onUpdate, rfl⟩ := fields
  obtain ⟨_, -, rfl⟩ := Checked.map_accepted.mp toType
  have names := rereads_nullable rereads_fullText fun _ => nofun
  have targets := rereads_nullable rereads_keyReference fun _ => nofun
  rw [writeKey, readKey, readKeyFields]
  refine modelOf_of (Checked.seq_of (Checked.seq_of (Checked.seq_of (Checked.seq_of (Checked.seq_of
    (Checked.map_of ?type) ?columns) ?name) ?references) ?onDelete) ?onUpdate)
    (by simp [keyKeys]) unrefused
  case type => exact required_found (by simp) (readKeyType_written _)
  case columns => exact required_rereads rereads_fullTexts columns (by simp)
  case name => exact optional_rereads names name (by simp)
  case references => exact optional_rereads targets references (by simp)
  case onDelete => exact optional_rereads rereads_action onDelete (by simp)
  case onUpdate => exact optional_rereads rereads_action onUpdate (by simp)

/-- Every form of a key definition is read as fields. -/
theorem rereads_key : Rereads readKey writeKey := by
  intro value key accepted
  unfold readKey at accepted
  split at accepted
  case h_1 => exact readKeyFields_written accepted
  case h_2 =>
    split at accepted
    case h_1 => cases accepted
    case h_2 =>
      dsimp only at accepted
      split at accepted
      case h_1 => exact readKeyFields_written accepted
      case h_2 => cases accepted

end Payload

end PortableSql
