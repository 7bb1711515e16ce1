import PortableSql.Dialect.Quotation
import PortableSql.Proofs.Cutting
import PortableSql.Proofs.Outcome

/-!
# Outcomes of quotation

Quoting a name has one outcome, and a name that is quoted consists of its parts between quotes,
with dots between them. Each part holds characters of the name only.
-/

namespace PortableSql

theorem gives_quotePart (quote : String × String) (what part : String) :
    (quotePart quote what part).Gives (quotePart quote what part).result := by
  unfold quotePart
  cases nameFault? what part with
  | none => exact Reporting.gives_pure _
  | some failure => exact (Reporting.gives_raise failure).self

theorem quotePart_ok {quote : String × String} {what part quoted : String}
    (ended : (quotePart quote what part).result = .ok quoted) :
    quoted = String.ofList (enclosed quote part.toList) := by
  unfold quotePart at ended
  cases fault : nameFault? what part with
  | none =>
    rw [fault] at ended
    exact (Except.ok.inj ended).symm
  | some failure =>
    rw [fault, Reporting.result_raise] at ended
    cases ended

/-- A name is quoted part by part. -/
theorem gives_quoteName_parts (quote : String × String) (what name : String) :
    (quoteName quote what name).Gives (do
      let quoted ← (Text.parts '.' name).mapM fun part =>
        (quotePart quote what (Text.trimmed part)).result
      .ok (".".intercalate quoted)) :=
  (Reporting.gives_mapM fun _ _ => gives_quotePart quote what _).bind
    fun quoted _ => Reporting.gives_pure (".".intercalate quoted)

theorem gives_quoteName (quote : String × String) (what name : String) :
    (quoteName quote what name).Gives (quoteName quote what name).result :=
  (gives_quoteName_parts quote what name).self

/-- The parts of a name, as they are quoted. -/
def nameParts (name : String) : List (List Char) := (Text.cut '.' name.toList).map Text.trim

theorem nameParts_ne_nil (name : String) : nameParts name ≠ [] := by
  simpa [nameParts] using Text.cut_ne_nil '.' name.toList

theorem mem_of_mem_nameParts {name : String} {part : List Char} {character : Char}
    (member : part ∈ nameParts name) (inside : character ∈ part) : character ∈ name.toList := by
  obtain ⟨whole, found, rfl⟩ := List.mem_map.mp member
  exact Text.mem_of_mem_cut found ((Text.trim_sublist _).mem inside)

/-- A quoted name is made of its parts between quotes. -/
theorem quoteName_ok {quote : String × String} {what name quoted : String}
    (ended : (quoteName quote what name).result = .ok quoted) :
    quoted.toList = List.intercalate ['.'] ((nameParts name).map (enclosed quote)) := by
  rw [(gives_quoteName_parts quote what name).result_eq, Reporting.bind_ok] at ended
  obtain ⟨texts, parts, same⟩ := ended
  have texts_eq := Reporting.mapM_ok (fun part quoted ended => quotePart_ok ended) parts
  rw [← Except.ok.inj same, texts_eq, String.toList_intercalate]
  simp [Text.parts, Text.trimmed, nameParts, Function.comp_def]

theorem gives_quoteNameValue (quote : String × String) (what : String) (value : Value) :
    (quoteNameValue quote what value).Gives (quoteNameValue quote what value).result := by
  unfold quoteNameValue
  split
  · exact gives_quoteName quote what _
  · exact (Reporting.gives_raise _).self

namespace Dialect

/-- A name between quotes, or why it cannot be quoted. -/
def quoted (dialect : Dialect) (what name : String) : Except Failure String :=
  (dialect.quoteIdentifier name what).result

/-- A value as a name between quotes, or why it cannot be quoted. -/
def quotedValue (dialect : Dialect) (what : String) (value : Value) : Except Failure String :=
  (quoteNameValue dialect.table.identifierQuote what value).result

theorem gives_quoteIdentifier (dialect : Dialect) (name what : String) :
    (dialect.quoteIdentifier name what).Gives (dialect.quoted what name) :=
  gives_quoteName dialect.table.identifierQuote what name

theorem gives_quotedValue (dialect : Dialect) (what : String) (value : Value) :
    (quoteNameValue dialect.table.identifierQuote what value).Gives
      (dialect.quotedValue what value) :=
  gives_quoteNameValue dialect.table.identifierQuote what value

/-- Only texts are names. -/
theorem quotedValue_ok {dialect : Dialect} {what quoted : String} {value : Value}
    (ended : dialect.quotedValue what value = .ok quoted) :
    ∃ name, value = .text name ∧ dialect.quoted what name = .ok quoted := by
  unfold quotedValue quoteNameValue at ended
  split at ended
  · exact ⟨_, rfl, ended⟩
  · rw [Reporting.result_raise] at ended
    cases ended

end Dialect

end PortableSql
