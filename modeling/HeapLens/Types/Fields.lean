import HeapLens.Types.Spelling

/-!
# Fields of a struct
-/

namespace HeapLens.TypeTable

/-- The field of that name; of two the first. It takes a struct or union that is not
only declared. -/
def findField (table : TypeTable) (t : TypeId) (name : String) : Except Fault Field :=
  match table.shape (table.strip t) with
  | .record record =>
    if record.isDeclaration then .error (.incompleteRecord (table.spell t))
    else
      match record.fields.find? fun f => f.name == name with
      | some f => .ok f
      | none => .error (.noField name (table.spell t))
  | shape => .error (.fieldOfNonRecord name shape.kind (table.spell t))

/-- What a field is found in, and which one it is. -/
theorem findField_eq_ok_iff {table : TypeTable} {t : TypeId} {name : String} {f : Field} :
    table.findField t name = .ok f ↔
      ∃ record, table.shape (table.strip t) = .record record ∧ record.isDeclaration = false ∧
        record.fields.find? (fun g => g.name == name) = some f := by
  unfold findField
  constructor
  · intro h
    split at h
    · next record shape =>
      split at h
      · cases h
      · next complete =>
        split at h
        · next found =>
          cases h
          exact ⟨record, shape, by simpa using complete, found⟩
        · cases h
    · cases h
  · rintro ⟨record, shape, complete, found⟩
    simp only [shape, complete, found, Bool.false_eq_true, if_false]

/-- A field that was found is one of the struct's, and has the name. -/
theorem mem_of_findField {table : TypeTable} {t : TypeId} {name : String} {f : Field}
    (h : table.findField t name = .ok f) :
    f.name = name ∧
      ∃ record, table.shape (table.strip t) = .record record ∧ f ∈ record.fields := by
  obtain ⟨record, shape, -, found⟩ := findField_eq_ok_iff.mp h
  exact ⟨by simpa using List.find?_some found, record, shape, List.mem_of_find?_eq_some found⟩

end HeapLens.TypeTable
