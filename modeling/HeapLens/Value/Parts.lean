import HeapLens.Value.Step

/-!
# The parts that every struct and array has

`parts` lists them without knowing what the value stands for.
-/

namespace HeapLens.Program

/-- A field of a struct at `addr`. Behind the last address, addresses begin again at
zero. -/
def fieldChild (addr : Nat) (f : Field) : Child :=
  ⟨f.name, .stored ((addr + f.offset) % addressLimit) f.type⟩

/-- The element of an array at `i`, as a child. -/
def elementChild (program : Program) (v : Value) (i : Nat) : Look Child := do
  let element ← program.index v i
  pure ⟨s!"[{i}]", element⟩

/-- The `count` elements of an array from `i` on, or the fault of the first one that
fails. -/
def elements (program : Program) (v : Value) : (i count : Nat) → Look (List Child)
  | _, 0 => pure []
  | i, count + 1 => do
    let child ← program.elementChild v i
    let rest ← program.elements v (i + 1) count
    pure (child :: rest)

/-- The first `limit` fields of a struct or elements of an array; scalars and
pointers have none. -/
def parts (program : Program) (v : Value) (limit : Nat) : Look (List Child) :=
  match program.shape v with
  | .record record => do
    let addr ← liftM (program.addressOf v .field)
    pure ((record.fields.take limit).map (fieldChild addr))
  | .array _ length => program.elements v 0 (min length limit)
  | _ => pure []

/-- No element is missing from a list of elements that was made. -/
theorem length_of_elements {program : Program} {v : Value} {i count : Nat} {children : List Child}
    (h : (program.elements v i count).result = .ok children) : children.length = count := by
  induction count generalizing i children with
  | zero =>
    cases h
    rfl
  | succ count ih =>
    obtain ⟨child, -, h⟩ := Look.exists_of_result_bind h
    obtain ⟨rest, hrest, h⟩ := Look.exists_of_result_bind h
    cases h
    rw [List.length_cons, ih hrest]

/-- If some elements are found, so are the first of them. -/
theorem result_elements_take {program : Program} {v : Value} {i count : Nat} {children : List Child}
    (h : (program.elements v i count).result = .ok children) {fewer : Nat} (hle : fewer ≤ count) :
    (program.elements v i fewer).result = .ok (children.take fewer) := by
  induction count generalizing i fewer children with
  | zero =>
    obtain rfl := Nat.le_zero.mp hle
    rfl
  | succ count ih =>
    cases fewer with
    | zero => rfl
    | succ fewer =>
      obtain ⟨child, hchild, h⟩ := Look.exists_of_result_bind h
      obtain ⟨rest, hrest, h⟩ := Look.exists_of_result_bind h
      cases h
      rw [elements, Look.result_bind_of_ok hchild,
        Look.result_bind_of_ok (ih hrest (Nat.le_of_succ_le_succ hle))]
      rfl

/-- All parts of a value are those that are found with more room than they take.
With less room the first of them are found. -/
theorem result_parts_take {program : Program} {v : Value} {limit : Nat} {children : List Child}
    (h : (program.parts v limit).result = .ok children) (hall : children.length < limit)
    (fewer : Nat) : (program.parts v fewer).result = .ok (children.take fewer) := by
  unfold parts at h ⊢
  split at h
  · next record shape =>
    obtain ⟨addr, haddr, h⟩ := Look.exists_of_result_bind h
    cases h
    rw [List.length_map, List.length_take] at hall
    have hfields : record.fields.take limit = record.fields := List.take_of_length_le (by omega)
    rw [Look.result_bind_of_ok haddr, hfields, ← List.map_take]
    rfl
  · next elem length shape =>
    have hlength := length_of_elements h
    have hfewer : min length fewer ≤ min length limit := by omega
    rw [result_elements_take h hfewer, List.take_eq_take_iff.mpr]
    omega
  · cases h
    rw [List.take_nil]
    rfl

end HeapLens.Program
