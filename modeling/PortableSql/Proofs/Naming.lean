import PortableSql.Proofs.Outline
import PortableSql.Proofs.Unquoting

/-!
# Parts of names

The parts of a name are quoted without the white space around them. So a name with the qualifiers of
another one has its parts up to the last, and a name is its only part exactly if it has no dot in it
and no white space around it. The parts are what is read from the quoted name.
-/

namespace PortableSql

/-- A name is its only part exactly if it has no dot in it and no white space around it. -/
theorem nameParts_eq_singleton {name : String} :
    nameParts name = [name.toList] ↔ '.' ∉ name.toList ∧ Text.Tight name.toList := by
  unfold nameParts
  constructor
  · intro same
    obtain ⟨part, cut, trimmed⟩ := List.map_eq_singleton_iff.mp same
    obtain ⟨rfl, undotted⟩ := Text.cut_eq_singleton.mp cut
    exact ⟨undotted, Text.trim_eq_self_iff.mp trimmed⟩
  · rintro ⟨undotted, tight⟩
    rw [Text.cut_of_not_mem undotted, List.map_singleton, Text.trim_eq_self_iff.mpr tight]

/-- The qualifiers of a name are its parts before the last one. -/
theorem map_qualifiers (name : String) :
    (qualifiers name).map String.toList = (Text.cut '.' name.toList).dropLast := by
  simp [qualifiers, Text.parts, List.map_dropLast, Function.comp_def]

/-- The last part of a name is the last one that it is cut into. -/
theorem toList_lastPart (name : String) : (Text.lastPart name).toList =
    (Text.cut '.' name.toList).getLast (Text.cut_ne_nil '.' name.toList) := by
  unfold Text.lastPart Text.parts
  rw [List.getLastD_eq_getLast?, List.getLast?_map,
    List.getLast?_eq_some_getLast (Text.cut_ne_nil '.' name.toList)]
  exact String.toList_ofList

/-- The last part of a name has no dot. -/
theorem dot_notMem_lastPart (name : String) : '.' ∉ (Text.lastPart name).toList := by
  rw [toList_lastPart]
  exact Text.not_mem_of_mem_cut (List.getLast_mem _)

/-- Without the white space around it, the last part of a name is quoted last. -/
theorem trim_lastPart (name : String) : Text.trim (Text.lastPart name).toList =
    (nameParts name).getLast (nameParts_ne_nil name) := by
  rw [toList_lastPart]
  exact (List.getLast_map _).symm

/-- The last part of a name is quoted by itself as it is in the name. -/
theorem nameParts_lastPart (name : String) : nameParts (Text.lastPart name) =
    [(nameParts name).getLast (nameParts_ne_nil name)] := by
  rw [← trim_lastPart, nameParts, Text.cut_of_not_mem (dot_notMem_lastPart name),
    List.map_singleton]

/-- A name with the qualifiers of another one has its parts up to the last. -/
theorem nameParts_qualified (name : String) {last : String} (undotted : '.' ∉ last.toList) :
    nameParts (".".intercalate (qualifiers name ++ [last])) =
      (nameParts name).dropLast ++ [Text.trim last.toList] := by
  have free : ∀ part ∈ (Text.cut '.' name.toList).dropLast ++ [last.toList], '.' ∉ part := by
    intro part member
    rcases List.mem_append.mp member with before | after
    · exact Text.not_mem_of_mem_cut ((List.dropLast_sublist _).mem before)
    · rw [List.mem_singleton.mp after]
      exact undotted
  have joined : (".".intercalate (qualifiers name ++ [last])).toList =
      ['.'].intercalate ((Text.cut '.' name.toList).dropLast ++ [last.toList]) := by
    rw [String.toList_intercalate, List.map_append, map_qualifiers]
    rfl
  rw [nameParts, joined, Text.cut_intercalate (by simp) free, List.map_append, List.map_dropLast]
  rfl

/-! ## Reading quoted names -/

/-- The characters are read as the parts of a name, up to whatever follows them, unless that goes on
with the closing quote or a further part. -/
def Sql.Reads (opening closing : Char) (characters : List Char) (parts : List (List Char)) : Prop :=
  ∀ following : List Char, following.head? ≠ some closing → following.head? ≠ some '.' →
    Sql.readParts opening closing (characters ++ following) = some (parts, following)

namespace Family

/-- A quoted name is read as the parts of the name. -/
theorem reads_quotedName (family : Family) (name : String) :
    Sql.Reads family.quote.1 family.quote.2 (family.dialect.quotedName name).toList
      (nameParts name) := by
  intro following apart undotted
  rw [Dialect.quotedName, String.toList_ofList, family.enclosed_name]
  exact Sql.readParts_dotted (by cases family <;> decide) (by cases family <;> decide)
    (nameParts_ne_nil name) apart undotted

/-- From a quoted name nothing but its parts is read. -/
theorem readParts_quotedName (family : Family) (name : String) :
    Sql.readParts family.quote.1 family.quote.2 (family.dialect.quotedName name).toList =
      some (nameParts name, []) := by
  have read := family.reads_quotedName name [] (by simp) (by simp)
  rwa [List.append_nil] at read

end Family

end PortableSql
