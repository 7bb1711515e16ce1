import PortableSql.Payload.Written
import PortableSql.Proofs.Reading

/-!
# Fields that are read again

What a field was read as is written under the keyword of the field, unless it is the usual value.
Each reader of plain values reads again what it read once, and a field that is written is found
again under its keyword, so that the field is read as before.
-/

namespace PortableSql

namespace Checked

variable {α β : Type}

theorem map_of {function : α → β} {part : Checked α} {value : α} (read : part = .accepted value) :
    (function <$> part) = .accepted (function value) := by
  subst read
  rfl

theorem seq_of {transform : Checked (α → β)} {part : Checked α} {function : α → β} {value : α}
    (first : transform = .accepted function) (second : part = .accepted value) :
    (transform <*> part) = .accepted (function value) := by
  subst first second
  rfl

/-- What was refused for no reason was read. -/
theorem checkedBy_unrefused {part : Checked α} {reason? : α → Option String} {value : α}
    (accepted : part.checkedBy reason? = .accepted value) : reason? value = none := by
  obtain ⟨read, -, checked⟩ := andThen_accepted.mp accepted
  cases reason : reason? read with
  | none =>
    rw [reason] at checked
    cases checked
    exact reason
  | some text =>
    rw [reason] at checked
    cases checked

/-- Every item was read from some value. -/
theorem items_accepted {read : α → Checked β} {position : Nat} {values : List α} {items : List β}
    (accepted : Checked.items read position values = .accepted items) :
    ∀ item ∈ items, ∃ value, read value = .accepted item := by
  induction values generalizing position items with
  | nil =>
    cases accepted
    exact fun _ member => nomatch member
  | cons value rest inductionHypothesis =>
    obtain ⟨⟨first, others⟩, both, rfl⟩ := map_accepted.mp accepted
    obtain ⟨head, tail⟩ := both_accepted.mp both
    exact List.forall_mem_cons.mpr
      ⟨⟨value, inside_accepted.mp head⟩, inductionHypothesis tail⟩

/-- Items that are read one by one are read. -/
theorem items_of {read : α → Checked β} {write : β → α} {settle : β → β} {position : Nat}
    {items : List β} (each : ∀ item ∈ items, read (write item) = .accepted (settle item)) :
    Checked.items read position (items.map write) = .accepted (items.map settle) := by
  induction items generalizing position with
  | nil => rfl
  | cons item rest inductionHypothesis =>
    obtain ⟨head, tail⟩ := List.forall_mem_cons.mp each
    exact map_accepted.mpr ⟨(_, _),
      both_accepted.mpr ⟨inside_accepted.mpr head, inductionHypothesis tail⟩, rfl⟩

end Checked

namespace Payload

/-! ## Entries that were written -/

section Entries

variable {α : Type} {key name : String}

@[simp] theorem valueOf?_append (entries others : Entries) :
    valueOf? key (entries ++ others) = (valueOf? key entries).or (valueOf? key others) := by
  induction entries with
  | nil => rfl
  | cons entry rest inductionHypothesis =>
    obtain ⟨known, value⟩ := entry
    cases known with
    | text spelling =>
      simp only [List.cons_append, valueOf?]
      split
      · rfl
      · exact inductionHypothesis
    | _ => exact inductionHypothesis

@[simp] theorem valueOf?_entry (value : Value) :
    valueOf? key (entry name value) = if name = key then some value else none := rfl

@[simp] theorem valueOf?_unlessUsual (usual : Bool) (value : Value) :
    valueOf? key (unlessUsual usual name value) =
      if name = key then (if usual then none else some value) else none := by
  cases usual <;> simp [unlessUsual, valueOf?_entry, valueOf?]

@[simp] theorem valueOf?_given (value? : Option α) (write : α → Value) :
    valueOf? key (given name value? write) = if name = key then value?.map write else none := by
  cases value? <;> simp [given, valueOf?_entry, valueOf?]

@[simp] theorem valueOf?_switched (on : Bool) :
    valueOf? key (switched name on) =
      if name = key ∧ on = true then some (.bool true) else none := by
  cases on <;> simp [switched, unlessUsual, valueOf?_entry, valueOf?]

@[simp] theorem valueOf?_argsEntry (args : List Value) :
    valueOf? key (argsEntry args) =
      if "args" = key then (if args.isEmpty then none else some (.list args)) else none :=
  valueOf?_unlessUsual _ _

/-- Every key of the entries is one of these. -/
def KeyedBy (names : List String) (entries : Entries) : Prop :=
  ∀ entry ∈ entries, ∃ name ∈ names, entry.1 = .text name

variable {names : List String}

@[simp] theorem keyedBy_append {entries others : Entries} :
    KeyedBy names (entries ++ others) ↔ KeyedBy names entries ∧ KeyedBy names others :=
  List.forall_mem_append

@[simp] theorem keyedBy_entry (belongs : name ∈ names) (value : Value) :
    KeyedBy names (entry name value) := by
  intro found member
  rw [List.mem_singleton.mp member]
  exact ⟨name, belongs, rfl⟩

@[simp] theorem keyedBy_nil : KeyedBy names [] := fun _ member => nomatch member

@[simp] theorem keyedBy_unlessUsual (belongs : name ∈ names) (usual : Bool) (value : Value) :
    KeyedBy names (unlessUsual usual name value) := by
  cases usual
  · exact keyedBy_entry belongs value
  · exact keyedBy_nil

@[simp] theorem keyedBy_given (belongs : name ∈ names) (value? : Option α) (write : α → Value) :
    KeyedBy names (given name value? write) := by
  cases value? with
  | none => exact keyedBy_nil
  | some value => exact keyedBy_entry belongs (write value)

@[simp] theorem keyedBy_switched (belongs : name ∈ names) (on : Bool) :
    KeyedBy names (switched name on) :=
  keyedBy_unlessUsual belongs _ _

@[simp] theorem keyedBy_argsEntry (belongs : "args" ∈ names) (args : List Value) :
    KeyedBy names (argsEntry args) :=
  keyedBy_unlessUsual belongs _ _

theorem exists_valueOf? {entries : Entries} {value : Value}
    (member : (.text name, value) ∈ entries) : ∃ found, valueOf? name entries = some found := by
  induction entries with
  | nil => cases member
  | cons entry rest inductionHypothesis =>
    obtain ⟨known, old⟩ := entry
    rcases List.mem_cons.mp member with same | following
    · cases same
      exact ⟨value, if_pos rfl⟩
    · cases known with
      | text spelling =>
        rw [valueOf?]
        split
        · exact ⟨old, rfl⟩
        · exact inductionHypothesis following
      | _ => exact inductionHypothesis following

/-- Keywords of fields are no stray keys. -/
theorem strayKeys_keyed {keys : List Key} {entries : Entries}
    (keyed : KeyedBy (keys.map (·.keyword)) entries) : strayKeys keys entries = [] := by
  refine List.filterMap_eq_nil_iff.mpr ?_
  rintro ⟨spelling, value⟩ member
  obtain ⟨name, belongs, rfl⟩ := keyed _ member
  obtain ⟨key, isKey, rfl⟩ := List.mem_map.mp belongs
  obtain ⟨found, known⟩ := exists_valueOf? member
  have located : key.locate entries = some (key.keyword, found) := by
    rw [Key.locate, known]
  have inside : key.keyword ∈ keys.filterMap fun key => (key.locate entries).map Prod.fst :=
    List.mem_filterMap.mpr ⟨key, isKey, by rw [located]; rfl⟩
  simp [inside]

/-- A model whose fields are read and whose keys are keywords is read. -/
theorem modelOf_of {keys : List Key} {entries : Entries} {fields : Checked α}
    {reason? : α → Option String} {value : α} (read : fields = .accepted value)
    (keyed : KeyedBy (keys.map (·.keyword)) entries) (unrefused : reason? value = none) :
    modelOf keys entries fields reason? = .accepted value := by
  subst read
  rw [modelOf, strayKeys_keyed keyed, Checked.also]
  simp [Checked.checkedBy, Checked.andThen, unrefused]

/-- A model that was read was refused for no reason. -/
theorem modelOf_unrefused {keys : List Key} {entries : Entries} {fields : Checked α}
    {reason? : α → Option String} {value : α}
    (accepted : modelOf keys entries fields reason? = .accepted value) : reason? value = none :=
  Checked.checkedBy_unrefused accepted

end Entries

/-! ## Fields of written entries -/

/-- The entries give this value for a field, under its keyword. -/
def Key.Found (key : Key) (entries : Entries) (value? : Option Value) : Prop :=
  valueOf? key.keyword entries = value? ∧
    (key.name ≠ key.keyword → valueOf? key.name entries = none)

section Fields

variable {α : Type} {key : Key} {entries : Entries} {read : Value → Checked α} {usual value : α}

@[simp] theorem Key.found_iff {value? : Option Value} : key.Found entries value? ↔
    valueOf? key.keyword entries = value? ∧
      (key.name ≠ key.keyword → valueOf? key.name entries = none) :=
  Iff.rfl

theorem Key.Found.locate {value? : Option Value} (found : key.Found entries value?) :
    key.locate entries = value?.map fun value => (key.keyword, value) := by
  obtain ⟨keyword, name⟩ := found
  rw [Key.locate, keyword]
  cases value? with
  | some value => rfl
  | none =>
    by_cases same : key.name = key.keyword
    · rw [same, keyword]
    · rw [name same]
      rfl

theorem required_found {written : Value} (found : key.Found entries (some written))
    (reads : read written = .accepted value) : required entries key read = .accepted value := by
  rw [required, found.locate]
  exact Checked.inside_accepted.mpr reads

theorem optional_found {written : Value} (found : key.Found entries (some written))
    (reads : read written = .accepted value) :
    optional entries key usual read = .accepted value := by
  rw [optional, found.locate]
  exact Checked.inside_accepted.mpr reads

theorem optional_missing (found : key.Found entries none) :
    optional entries key usual read = .accepted usual := by
  rw [optional, found.locate]
  rfl

/-- A field that is left out when it has its usual value. -/
theorem optional_unlessUsual {isUsual : Bool} {written : Value}
    (found : key.Found entries (if isUsual then none else some written))
    (same : isUsual = true → usual = value)
    (reads : isUsual = false → read written = .accepted value) :
    optional entries key usual read = .accepted value := by
  cases isUsual with
  | true => rw [optional_missing found, same rfl]
  | false => exact optional_found found (reads rfl)

/-- A field that may be absent, and may settle. -/
theorem optional_settled {read : Value → Checked (Option α)} {value? : Option α}
    {write : α → Value} {settle : α → α} (found : key.Found entries (value?.map write))
    (reads : ∀ value, value? = some value → read (write value) = .accepted (some (settle value))) :
    optional entries key none read = .accepted (value?.map settle) := by
  cases value? with
  | none => exact optional_missing found
  | some value => exact optional_found found (reads value rfl)

theorem optional_given {read : Value → Checked (Option α)} {value? : Option α} {write : α → Value}
    (found : key.Found entries (value?.map write))
    (reads : ∀ value, value? = some value → read (write value) = .accepted (some value)) :
    optional entries key none read = .accepted value? := by
  have settled : optional entries key none read = .accepted (value?.map id) :=
    optional_settled found reads
  rwa [Option.map_id] at settled

theorem optional_switched {on : Bool}
    (found : key.Found entries (if on = true then some (.bool true) else none)) :
    optional entries key false readBool = .accepted on := by
  cases on with
  | false => exact optional_missing found
  | true => exact optional_found found rfl

/-- A field that must be given was read from some value. -/
theorem required_accepted (accepted : required entries key read = .accepted value) :
    ∃ given, read given = .accepted value := by
  unfold required at accepted
  split at accepted
  · exact ⟨_, Checked.inside_accepted.mp accepted⟩
  · cases accepted

/-- A field has its usual value, or it was read from some value. -/
theorem optional_accepted (accepted : optional entries key usual read = .accepted value) :
    value = usual ∨ ∃ given, read given = .accepted value := by
  unfold optional at accepted
  split at accepted
  · exact .inr ⟨_, Checked.inside_accepted.mp accepted⟩
  · cases accepted
    exact .inl rfl

end Fields

/-! ## Readers of values -/

/-- What was read from any value is read from what is written for it, but for what settles. -/
def Rereads {α : Type} (read : Value → Checked α) (write : α → Value) (settle : α → α := id) :
    Prop :=
  ∀ value item, read value = .accepted item → read (write item) = .accepted (settle item)

/-- So is what was read for a field that may be absent. -/
def RereadsGiven {α : Type} (read : Value → Checked (Option α)) (write : α → Value) : Prop :=
  ∀ value item, read value = .accepted (some item) → read (write item) = .accepted (some item)

section Readers

variable {α : Type} {read : Value → Checked α} {write : α → Value} {settle : α → α}

theorem rereads_text : Rereads readText .text := fun _ _ _ => rfl

theorem rereads_fullText : Rereads readFullText .text := by
  intro value item accepted
  obtain ⟨characters, -, full⟩ := Checked.andThen_accepted.mp accepted
  split at full
  · cases full
  · cases full
    exact if_neg ‹_›

theorem rereads_intFrom (least : Int) : Rereads (readIntFrom least) .int := by
  intro value item accepted
  obtain ⟨number, -, enough⟩ := Checked.andThen_accepted.mp accepted
  split at enough
  · cases enough
  · cases enough
    exact if_neg ‹_›

theorem rereads_any : Rereads readAny id := fun _ _ _ => rfl

theorem nullable_accepted {value : Value} {item : α}
    (accepted : nullable read value = .accepted (some item)) : read value = .accepted item := by
  unfold nullable at accepted
  split at accepted
  · cases accepted
  · obtain ⟨_, known, ⟨⟩⟩ := Checked.map_accepted.mp accepted
    exact known

/-- Null, or what is read again. -/
theorem rereads_nullable (rereads : Rereads read write) (solid : ∀ item, write item ≠ .null) :
    RereadsGiven (nullable read) write := by
  intro value item accepted
  have again := rereads value item (nullable_accepted accepted)
  unfold nullable
  split
  case h_1 null => exact absurd null (solid item)
  case h_2 => exact Checked.map_accepted.mpr ⟨item, again, rfl⟩

/-- What a field that may be absent holds was read from some value. -/
theorem optional_nullable {key : Key} {entries : Entries} {item : α}
    (accepted : optional entries key none (nullable read) = .accepted (some item)) :
    ∃ value, read value = .accepted item := by
  rcases optional_accepted accepted with wrong | ⟨given, known⟩
  · cases wrong
  · exact ⟨given, nullable_accepted known⟩

/-- A field that must be given is read again where it is written. -/
theorem required_rereads {key : Key} {entries written : Entries} {item : α}
    (rereads : Rereads read write settle) (accepted : required entries key read = .accepted item)
    (found : key.Found written (some (write item))) :
    required written key read = .accepted (settle item) := by
  obtain ⟨given, known⟩ := required_accepted accepted
  exact required_found found (rereads given item known)

/-- A field that may be absent is read again where it is written if it is given. -/
theorem optional_rereads {key : Key} {entries written : Entries} {read : Value → Checked (Option α)}
    {value? : Option α} (rereads : RereadsGiven read write)
    (accepted : optional entries key none read = .accepted value?)
    (found : key.Found written (value?.map write)) :
    optional written key none read = .accepted value? := by
  refine optional_given found ?_
  rintro item rfl
  rcases optional_accepted accepted with wrong | ⟨given, known⟩
  · cases wrong
  · exact rereads given item known

theorem readList_of {items : List α}
    (each : ∀ item ∈ items, read (write item) = .accepted (settle item)) :
    readList read (.list (items.map write)) = .accepted (items.map settle) :=
  Checked.items_of each

theorem readTexts_written (items : List String) :
    readList readText (texts items) = .accepted items := by
  have reads : readList readText (texts items) = .accepted (items.map id) :=
    readList_of fun _ _ => rfl
  rwa [List.map_id] at reads

theorem readValues_written (items : List Value) :
    readList readAny (.list items) = .accepted items := by
  have reads : readList readAny (.list (items.map id)) = .accepted (items.map id) :=
    readList_of fun _ _ => rfl
  rwa [List.map_id] at reads

/-- Lists are read again item by item. -/
theorem rereads_list (rereads : Rereads read write) :
    Rereads (readList read) fun items => .list (items.map write) := by
  intro value items accepted
  unfold readList at accepted
  split at accepted
  case h_2 => cases accepted
  case h_1 values _ =>
    have each : ∀ item ∈ items, read (write item) = .accepted (id item) := by
      intro item member
      obtain ⟨given, known⟩ := Checked.items_accepted accepted item member
      exact rereads given item known
    have reads := readList_of each
    rwa [List.map_id] at reads

theorem rereads_texts : Rereads (readList readText) texts :=
  fun _ items _ => readTexts_written items

/-- A list that is not empty stays so. -/
theorem rereads_fullTexts : Rereads (fun value => readFullList readText (wrapped value)) texts := by
  intro value items accepted
  obtain ⟨read, known, full⟩ := Checked.andThen_accepted.mp accepted
  split at full
  · cases full
  · cases full
    exact Checked.andThen_accepted.mpr ⟨_, readTexts_written _, if_neg ‹_›⟩

/-- A clause that was joined is a text. -/
theorem optional_joined {key : Key} {entries : Entries} {clause? : Option String}
    (found : key.Found entries (clause?.map .text)) :
    optional entries key none (fun value => nullable readText (joined value)) =
      .accepted clause? :=
  optional_given found fun _ _ => rfl

/-! ## Dictionaries -/

section

variable {β : Type}

/-- Setting a value adds its name where it is new. -/
theorem names_putEntry (entries : List (String × β)) (name : String) (value : β) :
    (putEntry entries name value).map Prod.fst =
      if name ∈ entries.map Prod.fst then entries.map Prod.fst
      else entries.map Prod.fst ++ [name] := by
  induction entries with
  | nil => rfl
  | cons entry rest inductionHypothesis =>
    obtain ⟨known, old⟩ := entry
    rw [putEntry]
    by_cases same : known = name
    case pos => simp [same]
    case neg =>
      rw [if_neg same, List.map_cons, inductionHypothesis]
      have other : name ∈ ((known, old) :: rest).map Prod.fst ↔ name ∈ rest.map Prod.fst := by
        simp [Ne.symm same]
      rw [if_congr other rfl rfl]
      split <;> rfl

theorem putEntry_new {entries : List (String × β)} {name : String} (value : β)
    (fresh : name ∉ entries.map Prod.fst) :
    putEntry entries name value = entries ++ [(name, value)] := by
  induction entries with
  | nil => rfl
  | cons entry rest inductionHypothesis =>
    obtain ⟨other, absent⟩ := not_or.mp (mt List.mem_cons.mpr fresh)
    rw [putEntry, if_neg (Ne.symm other), inductionHypothesis absent]
    rfl

/-- What holds of the old values and of the new one holds of all. -/
theorem forall_putEntry {Holds : β → Prop} {entries : List (String × β)} {name : String} {value : β}
    (known : ∀ entry ∈ entries, Holds entry.2) (new : Holds value) :
    ∀ entry ∈ putEntry entries name value, Holds entry.2 := by
  induction entries with
  | nil => simpa [putEntry] using new
  | cons entry rest inductionHypothesis =>
    obtain ⟨head, tail⟩ := List.forall_mem_cons.mp known
    rw [putEntry]
    split
    · exact List.forall_mem_cons.mpr ⟨new, tail⟩
    · exact List.forall_mem_cons.mpr ⟨head, inductionHypothesis tail⟩

/-- The names of a dictionary are different. -/
theorem nodup_entriesOf (pairs : List (String × β)) : ((entriesOf pairs).map Prod.fst).Nodup := by
  have grows : ∀ entries : List (String × β), (entries.map Prod.fst).Nodup →
      ((pairs.foldl (fun entries pair => putEntry entries pair.1 pair.2) entries).map
        Prod.fst).Nodup := by
    induction pairs with
    | nil => exact fun _ apart => apart
    | cons pair rest inductionHypothesis =>
      intro entries apart
      refine inductionHypothesis _ ?_
      rw [names_putEntry]
      split
      · exact apart
      · refine List.nodup_append.mpr ⟨apart, List.pairwise_singleton _ _, ?_⟩
        rintro name member _ new rfl
        exact absurd (List.mem_singleton.mp new ▸ member) ‹_›
  exact grows [] List.nodup_nil

/-- What holds of all values that are given holds of the values of a dictionary. -/
theorem forall_entriesOf (Holds : β → Prop) {pairs : List (String × β)}
    (each : ∀ pair ∈ pairs, Holds pair.2) : ∀ entry ∈ entriesOf pairs, Holds entry.2 := by
  have grows : ∀ entries : List (String × β), (∀ entry ∈ entries, Holds entry.2) →
      ∀ entry ∈ pairs.foldl (fun entries pair => putEntry entries pair.1 pair.2) entries,
        Holds entry.2 := by
    induction pairs with
    | nil => exact fun _ known => known
    | cons pair rest inductionHypothesis =>
      obtain ⟨head, tail⟩ := List.forall_mem_cons.mp each
      exact fun entries known => inductionHypothesis tail _ (forall_putEntry known head)
  exact grows [] fun _ member => nomatch member

/-- Pairs with different names are the entries of a dictionary. -/
theorem entriesOf_of_nodup {pairs : List (String × β)} (apart : (pairs.map Prod.fst).Nodup) :
    entriesOf pairs = pairs := by
  have grows : ∀ entries : List (String × β), ((entries ++ pairs).map Prod.fst).Nodup →
      pairs.foldl (fun entries pair => putEntry entries pair.1 pair.2) entries =
        entries ++ pairs := by
    clear apart
    induction pairs with
    | nil => exact fun entries _ => (List.append_nil entries).symm
    | cons pair rest inductionHypothesis =>
      intro entries apart
      have fresh : pair.1 ∉ entries.map Prod.fst := by
        rw [List.map_append, List.nodup_append] at apart
        exact fun member => apart.2.2 _ member _ List.mem_cons_self rfl
      rw [List.foldl_cons, putEntry_new pair.2 fresh, inductionHypothesis]
      · rw [List.append_assoc]
        rfl
      · rwa [List.append_assoc]
  exact grows [] apart

end

theorem readEntries_accepted {entries : Entries} {pairs : List (String × α)}
    (accepted : readEntries readText read entries = .accepted pairs) :
    ∀ pair ∈ pairs, ∃ value, read value = .accepted pair.2 := by
  induction entries generalizing pairs with
  | nil =>
    cases accepted
    exact fun _ member => nomatch member
  | cons entry rest inductionHypothesis =>
    obtain ⟨key, value⟩ := entry
    obtain ⟨⟨first, others⟩, both, rfl⟩ := Checked.map_accepted.mp accepted
    obtain ⟨head, tail⟩ := Checked.both_accepted.mp both
    obtain ⟨-, known⟩ := Checked.both_accepted.mp (Checked.inside_accepted.mp head)
    exact List.forall_mem_cons.mpr ⟨⟨value, known⟩, inductionHypothesis tail⟩

theorem readEntries_of {columns : List (String × α)}
    (each : ∀ column ∈ columns, read (write column.2) = .accepted (settle column.2)) :
    readEntries readText read (columns.map fun (name, value) => (.text name, write value)) =
      .accepted (columns.map fun (name, value) => (name, settle value)) := by
  induction columns with
  | nil => rfl
  | cons column rest inductionHypothesis =>
    obtain ⟨head, tail⟩ := List.forall_mem_cons.mp each
    refine Checked.map_accepted.mpr ⟨((column.1, settle column.2), _), Checked.both_accepted.mpr
      ⟨Checked.inside_accepted.mpr (Checked.both_accepted.mpr ⟨rfl, head⟩),
        inductionHypothesis tail⟩, rfl⟩

/-- The values of a dictionary were read one by one. -/
theorem readDictionary_accepted {value : Value} {columns : List (String × α)}
    (accepted : readDictionary read value = .accepted columns) :
    ∀ column ∈ columns, ∃ given, read given = .accepted column.2 := by
  cases value with
  | dictionary entries =>
    obtain ⟨pairs, known, rfl⟩ := Checked.map_accepted.mp accepted
    exact forall_entriesOf (fun item => ∃ given, read given = .accepted item)
      (readEntries_accepted known)
  | _ => cases accepted

/-- Dictionaries are read again entry by entry. -/
theorem rereads_dictionary (rereads : Rereads read write settle) :
    Rereads (readDictionary read) (columnsOf write)
      (List.map fun (name, value) => (name, settle value)) := by
  intro value columns accepted
  have each : ∀ column ∈ columns, read (write column.2) = .accepted (settle column.2) := by
    intro column member
    obtain ⟨given, read⟩ := readDictionary_accepted accepted column member
    exact rereads given column.2 read
  cases value with
  | dictionary entries =>
    obtain ⟨pairs, known, rfl⟩ := Checked.map_accepted.mp accepted
    refine Checked.map_accepted.mpr ⟨_, readEntries_of each, entriesOf_of_nodup ?_⟩
    rw [List.map_map]
    exact nodup_entriesOf pairs
  | _ => cases accepted

theorem rereads_columns (rereads : Rereads read write) :
    Rereads (readDictionary read) (columnsOf write) := by
  intro value columns accepted
  have reads := rereads_dictionary rereads value columns accepted
  rwa [List.map_id''] at reads
  exact fun _ => rfl

/-- A field that is left out when it is empty. -/
theorem optional_unlessEmpty {key : Key} {entries written : Entries}
    {read : Value → Checked (List α)} {write : List α → Value} {items : List α}
    (rereads : Rereads read write) (accepted : optional entries key [] read = .accepted items)
    (found : key.Found written (if items.isEmpty then none else some (write items))) :
    optional written key [] read = .accepted items := by
  refine optional_unlessUsual found (fun empty => (List.isEmpty_iff.mp empty).symm) fun full => ?_
  rcases optional_accepted accepted with rfl | ⟨given, known⟩
  · cases full
  · exact rereads given items known

end Readers

end Payload

end PortableSql
