import PortableSql.Number.Decimal
import PortableSql.Value.Moment

/-!
# Values

What a payload may hold, an argument may be and a row may carry. Lists and tuples are different
values, and so are the three forms of binary data. A dictionary keeps the order of its entries:
the order of columns and of rows is part of the meaning of a command.
-/

namespace PortableSql

/-- How binary data is held: fixed, growable, or as a view of another buffer. -/
inductive BufferForm where
  | fixed
  | growable
  | view
deriving DecidableEq, Repr

/-- A value of a payload, an argument list or a row. -/
inductive Value where
  | null
  | bool (truth : Bool)
  | int (number : Int)
  | float (number : Float)
  | decimal (number : Number.Decimal)
  | text (characters : String)
  | binary (form : BufferForm) (bytes : List UInt8)
  | date (day : Day)
  | time (clock : Clock)
  | datetime (moment : Moment)
  | list (items : List Value)
  | tuple (items : List Value)
  | dictionary (entries : List (Value × Value))

instance : Inhabited Value := ⟨.null⟩

/-- One row of a result: column names with their values, in order. -/
abbrev Row := List (String × Value)

namespace Value

/-- The name of the value's type, as messages show it. -/
def typeName : Value → String
  | null => "NoneType"
  | bool _ => "bool"
  | int _ => "int"
  | float _ => "float"
  | decimal _ => "Decimal"
  | text _ => "str"
  | binary .fixed _ => "bytes"
  | binary .growable _ => "bytearray"
  | binary .view _ => "memoryview"
  | date _ => "date"
  | time _ => "time"
  | datetime _ => "datetime"
  | list _ => "list"
  | tuple _ => "tuple"
  | dictionary _ => "dict"

/-- The name of the value's type together with the family it belongs to, if it has one. -/
def qualifiedTypeName : Value → String
  | decimal _ => "decimal.Decimal"
  | date _ => "datetime.date"
  | time _ => "datetime.time"
  | datetime _ => "datetime.datetime"
  | value => value.typeName

/-- Zero, emptiness, falsehood and absence do not hold; everything else does. -/
def holds : Value → Bool
  | null => false
  | bool truth => truth
  | int number => number != 0
  | float number => !(number == 0.0)
  | decimal number => !number.isZero
  | text characters => !characters.isEmpty
  | binary _ bytes => !bytes.isEmpty
  | date _ | time _ | datetime _ => true
  | list items | tuple items => !items.isEmpty
  | dictionary entries => !entries.isEmpty

/-- The greatest exponent of a decimal that is compared with numbers of other types; no integer and
no double is that large or that small. -/
def greatestExponent : Nat := 100000

/-- The exact value of a finite number, as a numerator and a positive denominator. Decimals with
exponents beyond every other number have none. -/
def rational? : Value → Option (Int × Nat)
  | bool truth => some (if truth then 1 else 0, 1)
  | int number => some (number, 1)
  | float number => match Number.Binary64.ofFloat number with
    | .finite negative significand exponent => some (signed negative significand 2 exponent)
    | _ => none
  | decimal (.finite negative coefficient exponent) =>
    if exponent.natAbs ≤ greatestExponent then some (signed negative coefficient 10 exponent)
    else none
  | _ => none
where
  /-- The numerator and denominator of `number * base ^ exponent` with a sign. -/
  signed (negative : Bool) (number base : Nat) (exponent : Int) : Int × Nat :=
    let fraction := Number.Fraction.scaled number base exponent
    (if negative then -fraction.numerator else fraction.numerator, fraction.denominator)

/-- Equality of dictionary keys: numbers of all types agree when their values do. -/
def sameKey (left right : Value) : Bool :=
  match left, right with
  | null, null => true
  | text first, text second => first == second
  | binary _ first, binary _ second => first == second
  | date first, date second => first == second
  | time first, time second => first.agrees second
  | datetime first, datetime second => first.agrees second
  | tuple first, tuple second => sameKeys first second
  | decimal first, decimal second => first.agrees second
  | first, second => match first.rational?, second.rational? with
    | some (numerator, denominator), some (other, divisor) =>
      numerator * divisor == other * denominator
    | _, _ => false
where
  /-- Equality of tuples of keys, position by position. -/
  sameKeys : List Value → List Value → Bool
    | [], [] => true
    | first :: firsts, second :: seconds => sameKey first second && sameKeys firsts seconds
    | _, _ => false

/-- The dictionary of the given entries: a repeated key keeps its first place and its last
value. -/
def dictionaryOf (entries : List (Value × Value)) : Value :=
  .dictionary (entries.foldl put [])
where
  /-- Sets the value of a key. -/
  put : List (Value × Value) → Value × Value → List (Value × Value)
    | [], entry => [entry]
    | (key, value) :: rest, entry =>
      if key.sameKey entry.1 then (key, entry.2) :: rest else (key, value) :: put rest entry

end Value

/-- Sets the value of a key: a known key keeps its place. -/
def putEntry {κ α : Type} [DecidableEq κ] (entries : List (κ × α)) (key : κ) (value : α) :
    List (κ × α) :=
  match entries with
  | [] => [(key, value)]
  | (known, old) :: rest =>
    if known = key then (known, value) :: rest else (known, old) :: putEntry rest key value

/-- A column that was set has its new value. -/
@[simp] theorem lookup_putEntry {α : Type} (entries : List (String × α)) (key : String)
    (value : α) : (putEntry entries key value).lookup key = some value := by
  induction entries with
  | nil => simp [putEntry]
  | cons entry rest inductionHypothesis =>
    obtain ⟨known, old⟩ := entry
    by_cases same : known = key
    · simp [putEntry, same]
    · simp [putEntry, same, List.lookup_cons, inductionHypothesis,
        beq_false_of_ne (Ne.symm same)]

/-- The other columns keep their values. -/
theorem lookup_putEntry_of_ne {α : Type} (entries : List (String × α)) {key other : String}
    (value : α) (different : other ≠ key) :
    (putEntry entries key value).lookup other = entries.lookup other := by
  induction entries with
  | nil => simp [putEntry, List.lookup_cons, beq_false_of_ne different]
  | cons entry rest inductionHypothesis =>
    obtain ⟨known, old⟩ := entry
    by_cases same : known = key
    · simp [putEntry, same, List.lookup_cons, beq_false_of_ne different]
    · simp [putEntry, same, List.lookup_cons, inductionHypothesis]

/-- The entries one after the other, the last value of a repeated key at its first place. -/
def entriesOf {κ α : Type} [DecidableEq κ] (pairs : List (κ × α)) : List (κ × α) :=
  pairs.foldl (fun entries pair => putEntry entries pair.1 pair.2) []

end PortableSql
