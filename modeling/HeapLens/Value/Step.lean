import HeapLens.Value.Scalar

/-!
# Stepping from a value to its parts

To what a pointer points, to a field, and to an element. Only pointers are read on
the way; the part itself is not.
-/

namespace HeapLens.Program

def dereference (program : Program) (v : Value) : Look Value :=
  match program.shape v with
  | .pointer target _ => do
    let addr ← program.readPointer v
    if addr = 0 then throw .nullDereference
    else pure (.stored addr target)
  | shape => throw (.notDereferenceable shape.kind)

/-- What a pointer leads to, if it can be read and is not null. -/
theorem result_dereference_of_pointer {program : Program} {v : Value} {target : TypeId}
    {reference : Bool} {addr : Nat} (pointer : program.shape v = .pointer target reference)
    (read : (program.readPointer v).result = .ok addr) (notNull : addr ≠ 0) :
    (program.dereference v).result = .ok (.stored addr target) := by
  unfold dereference
  rw [pointer]
  dsimp only
  rw [Look.result_bind_of_ok read, if_neg notNull]
  rfl

/-- The field of that name. -/
def field (program : Program) (v : Value) (name : String) : Except Fault Value := do
  let f ← program.types.findField v.type name
  let addr ← program.addressOf v .field
  if addr + f.offset < addressLimit then pure (.stored (addr + f.offset) f.type)
  else throw (.fieldOverflow addr f.offset)

/-- The element of type `elem` at `index`, counted from `base`. -/
def elementAt (program : Program) (base : Nat) (elem : TypeId) (index : Nat) : Except Fault Value :=
  let stride := program.types.sizeOf elem
  if base = 0 then .error .nullDereference
  else if stride = 0 then .error (.unsizedElement (program.types.spell elem))
  else if base + index * stride < addressLimit then .ok (.stored (base + index * stride) elem)
  else .error (.elementOverflow base index stride)

/-- The element at `index` of an array, or of the buffer that a pointer points to.
Only the length of an array is known and checked. -/
def index (program : Program) (v : Value) (index : Nat) : Look Value :=
  match program.shape v with
  | .pointer target _ => do
    let base ← program.readPointer v
    liftM (program.elementAt base target index)
  | .array elem length =>
    if length ≤ index then throw (.outOfBounds index length)
    else do
      let base ← liftM (program.addressOf v .element)
      liftM (program.elementAt base elem index)
  | shape => throw (.notIndexable shape.kind)

/-- A field is as far from its struct as its offset says. -/
theorem field_eq_ok_iff {program : Program} {v w : Value} {name : String} :
    program.field v name = .ok w ↔
      ∃ f addr, program.types.findField v.type name = .ok f ∧ v.place = .stored addr ∧
        addr + f.offset < addressLimit ∧ w = .stored (addr + f.offset) f.type := by
  unfold field
  cases found : program.types.findField v.type name with
  | error fault =>
    constructor
    · intro h
      cases h
    · rintro ⟨_, _, h, -⟩
      cases h
  | ok f =>
    obtain ⟨place, t⟩ := v
    cases place with
    | held bits =>
      constructor
      · intro h
        cases h
      · rintro ⟨_, _, -, h, -⟩
        cases h
    | stored addr =>
      show (if addr + f.offset < addressLimit then _ else _) = _ ↔ _
      constructor
      · intro h
        split at h
        · next fits =>
          cases h
          exact ⟨f, addr, rfl, rfl, fits, rfl⟩
        · cases h
      · rintro ⟨_, _, ⟨⟩, ⟨⟩, fits, rfl⟩
        rw [if_pos fits]
        rfl

/-- There is an element if it is not counted from null, has a size, and begins at an
address. -/
theorem elementAt_eq_ok_iff {program : Program} {base i : Nat} {elem : TypeId} {w : Value} :
    program.elementAt base elem i = .ok w ↔
      base ≠ 0 ∧ program.types.sizeOf elem ≠ 0 ∧
        base + i * program.types.sizeOf elem < addressLimit ∧
        w = .stored (base + i * program.types.sizeOf elem) elem := by
  unfold elementAt
  dsimp only
  constructor
  · intro h
    split at h
    · cases h
    · next notNull =>
      split at h
      · cases h
      · next sized =>
        split at h
        · next fits =>
          cases h
          exact ⟨notNull, sized, fits, rfl⟩
        · cases h
  · rintro ⟨notNull, sized, fits, rfl⟩
    rw [if_neg notNull, if_neg sized, if_pos fits]

/-- An element behind a pointer is counted from the address that the pointer
holds. -/
theorem result_index_of_pointer {program : Program} {v : Value} {target : TypeId}
    {reference : Bool} (h : program.shape v = .pointer target reference) (i : Nat) :
    (program.index v i).result =
      (program.readPointer v).result >>= fun base => program.elementAt base target i := by
  unfold index
  rw [h, Look.result_bind]
  rfl

/-- The element of an array is looked for inside the array only, and nothing is read
for it. -/
theorem result_index_of_array {program : Program} {v w : Value} {elem : TypeId} {length i : Nat}
    (h : program.shape v = .array elem length) :
    (program.index v i).result = .ok w ↔
      i < length ∧ ∃ addr, v.place = .stored addr ∧ program.elementAt addr elem i = .ok w := by
  unfold index
  rw [h]
  obtain ⟨place, t⟩ := v
  dsimp only
  by_cases outside : length ≤ i
  · rw [if_pos outside]
    constructor
    · intro h
      cases h
    · rintro ⟨inside, -⟩
      exact absurd inside (Nat.not_lt_of_le outside)
  · rw [if_neg outside]
    cases place with
    | held bits =>
      constructor
      · intro h
        cases h
      · rintro ⟨-, _, h, -⟩
        cases h
    | stored addr =>
      constructor
      · intro found
        exact ⟨Nat.lt_of_not_le outside, addr, rfl, found⟩
      · rintro ⟨-, _, ⟨⟩, found⟩
        exact found

/-- The elements of a value lie at equal distances. -/
theorem exists_of_index (program : Program) (v : Value) :
    ∃ base elem, ∀ i w, (program.index v i).result = .ok w →
      0 < program.types.sizeOf elem ∧ w = .stored (base + i * program.types.sizeOf elem) elem := by
  have of_elementAt : ∀ {base i : Nat} {elem : TypeId} {w : Value},
      program.elementAt base elem i = .ok w →
      0 < program.types.sizeOf elem ∧
        w = .stored (base + i * program.types.sizeOf elem) elem := by
    intro base i elem w h
    obtain ⟨-, hsized, -, hw⟩ := elementAt_eq_ok_iff.mp h
    exact ⟨Nat.pos_of_ne_zero hsized, hw⟩
  -- The base is in a pointer, which is read anew for each element, or it is where
  -- an array begins.
  cases shape : program.shape v with
  | pointer target reference =>
    refine ⟨(program.readPointer v).result.toOption.getD 0, target, ?_⟩
    intro i w h
    rw [result_index_of_pointer shape] at h
    cases hbase : (program.readPointer v).result with
    | ok base =>
      rw [hbase] at h
      exact of_elementAt h
    | error fault =>
      rw [hbase] at h
      cases h
  | array elem length =>
    obtain ⟨place, t⟩ := v
    cases place with
    | stored addr =>
      refine ⟨addr, elem, ?_⟩
      intro i w h
      obtain ⟨-, base, ⟨⟩, helement⟩ := (result_index_of_array shape).mp h
      exact of_elementAt helement
    | held bits =>
      refine ⟨0, elem, ?_⟩
      intro i w h
      obtain ⟨-, base, hplace, -⟩ := (result_index_of_array shape).mp h
      cases hplace
  | unknown | primitive traits | record record | typedef target =>
    refine ⟨0, 0, ?_⟩
    intro i w h
    unfold index at h
    rw [shape] at h
    cases h

/-- One step of a path through a value. -/
inductive Step where
  | field (name : String)
  | index (index : Nat)
  | dereference
  deriving DecidableEq, Repr

def step (program : Program) (v : Value) : Step → Look Value
  | .field name => liftM (program.field v name)
  | .index i => program.index v i
  | .dereference => program.dereference v

/-- The part that a path leads to. -/
def follow (program : Program) (v : Value) (path : List Step) : Look Value :=
  path.foldlM program.step v

end HeapLens.Program
