import HeapLens.Memory.Snapshot
import HeapLens.Value.Parts

/-!
# The listed parts are those that a step leads to

A part of a value can be come by in two ways: all of them are listed
(`Program.parts`), or one step is taken, to a field by its name or to an element by
its index. The list knows a field by where it stands and lets its address begin
again at zero; the step looks for the first field of the name and refuses what is
behind the last address. Elements are listed by taking the steps.

> `field_of_first`: the step to a name leads to the first field that has it, unless
> that is too far.
> `result_elements_eq_ok_iff`: elements are listed exactly if there is a step to
> each of them.
> `result_elements_eq_error_iff`: what stops the list is the fault of the first step
> that fails.
> `result_parts_of_le`: with less room the list is cut, and nothing else about it
> changes.
-/

namespace HeapLens.Program

variable {program : Program} {v : Value}

/-! ## Fields -/

/-- The field at `i` is `f`, and none in front of it has its name. -/
def FirstOfName (fields : List Field) (i : Nat) (f : Field) : Prop :=
  fields[i]? = some f ∧ ∀ g ∈ fields.take i, g.name ≠ f.name

/-- Of several fields with one name the search comes to the first. -/
theorem find?_of_firstOfName {fields : List Field} {i : Nat} {f : Field}
    (first : FirstOfName fields i f) : fields.find? (fun g => g.name == f.name) = some f := by
  obtain ⟨hf, others⟩ := first
  obtain ⟨hi, rfl⟩ := List.getElem?_eq_some_iff.mp hf
  refine List.find?_eq_some_iff_getElem.mpr ⟨beq_self_eq_true _, i, hi, rfl, ?_⟩
  intro j hj
  have hmem : fields[j] ∈ fields.take i := List.mem_take_iff_getElem.mpr ⟨j, by omega, rfl⟩
  simpa using others _ hmem

/-- The step to a name leads to the first field that has it, if that is not behind
the last address. -/
theorem field_of_first {record : Record} {addr i : Nat} {f : Field}
    (shape : program.shape v = .record record) (complete : record.isDeclaration = false)
    (place : v.place = .stored addr) (first : FirstOfName record.fields i f) :
    program.field v f.name =
      if addr + f.offset < addressLimit then .ok (.stored (addr + f.offset) f.type)
      else .error (.fieldOverflow addr f.offset) := by
  have found : program.types.findField v.type f.name = .ok f :=
    TypeTable.findField_eq_ok_iff.mpr ⟨record, shape, complete, find?_of_firstOfName first⟩
  rw [field, found, addressOf_of_stored place]
  rfl

/-- What the list has for a field is where the step to it leads; where the list goes
on at address zero, there is no step. -/
theorem field_fieldChild {record : Record} {addr i : Nat} {f : Field}
    (shape : program.shape v = .record record) (complete : record.isDeclaration = false)
    (place : v.place = .stored addr) (first : FirstOfName record.fields i f) :
    (addr + f.offset < addressLimit → program.field v f.name = .ok (fieldChild addr f).value) ∧
      ((∃ fault, program.field v f.name = .error fault ∧ fault.code = .sanity) ↔
        addressLimit ≤ addr + f.offset) := by
  rw [field_of_first shape complete place first]
  by_cases fits : addr + f.offset < addressLimit
  · rw [if_pos fits]
    refine ⟨fun _ => ?_, ?_⟩
    · rw [fieldChild, Nat.mod_eq_of_lt fits]
    · constructor
      · rintro ⟨fault, h, -⟩
        cases h
      · intro behind
        omega
  · rw [if_neg fits]
    refine ⟨fun h => absurd h fits, ?_⟩
    constructor
    · intro
      omega
    · intro
      exact ⟨_, rfl, rfl⟩

/-- The fields of a struct in memory are all listed, as far as there is room. -/
theorem result_parts_of_record {record : Record} {addr : Nat}
    (shape : program.shape v = .record record) (place : v.place = .stored addr) (limit : Nat) :
    (program.parts v limit).result = .ok ((record.fields.take limit).map (fieldChild addr)) := by
  have known : (liftM (program.addressOf v .field) : Look Nat).result = .ok addr :=
    addressOf_of_stored place .field
  rw [parts, shape]
  exact Look.result_bind_of_ok known _

/-! ## Elements -/

/-- The step to the element at `j` is the first from `i` on that fails. -/
def FirstFailing (program : Program) (v : Value) (i j : Nat) (fault : Fault) : Prop :=
  (program.index v j).result = .error fault ∧
    ∀ k, i ≤ k → k < j → ∃ w, (program.index v k).result = .ok w

theorem result_elementChild (program : Program) (v : Value) (i : Nat) :
    (program.elementChild v i).result =
      (program.index v i).result.map fun element => ⟨s!"[{i}]", element⟩ := by
  rw [elementChild, Look.result_bind]
  cases (program.index v i).result <;> rfl

theorem result_elementChild_eq_ok_iff {i : Nat} {child : Child} :
    (program.elementChild v i).result = .ok child ↔
      child.label = s!"[{i}]" ∧ (program.index v i).result = .ok child.value := by
  rw [result_elementChild]
  cases (program.index v i).result with
  | ok w =>
    obtain ⟨label, value⟩ := child
    simp [Except.map, eq_comm]
  | error fault => simp [Except.map]

theorem result_elementChild_eq_error_iff {i : Nat} {fault : Fault} :
    (program.elementChild v i).result = .error fault ↔
      (program.index v i).result = .error fault := by
  rw [result_elementChild]
  cases (program.index v i).result <;> simp [Except.map]

/-- Once there is a step to the element at `i`, the first that fails is looked for
behind it. -/
theorem firstFailing_of_ok {i j : Nat} {w : Value} {fault : Fault}
    (there : (program.index v i).result = .ok w) :
    i ≤ j ∧ FirstFailing program v i j fault ↔ i < j ∧ FirstFailing program v (i + 1) j fault := by
  constructor
  · rintro ⟨hle, failing, before⟩
    obtain rfl | hlt := Nat.eq_or_lt_of_le hle
    · cases there.symm.trans failing
    · exact ⟨hlt, failing, fun k hk => before k (Nat.le_of_succ_le hk)⟩
  · rintro ⟨hlt, failing, before⟩
    refine ⟨Nat.le_of_lt hlt, failing, ?_⟩
    intro k hk hkj
    obtain rfl | hik := Nat.eq_or_lt_of_le hk
    · exact ⟨w, there⟩
    · exact before k hik hkj

/-- Elements are listed exactly if there is a step to each of them. -/
theorem result_elements_eq_ok_iff {i count : Nat} {children : List Child} :
    (program.elements v i count).result = .ok children ↔
      children.length = count ∧ ∀ k child, children[k]? = some child →
        child.label = s!"[{i + k}]" ∧ (program.index v (i + k)).result = .ok child.value := by
  induction count generalizing i children with
  | zero =>
    constructor
    · intro h
      cases h
      simp
    · rintro ⟨hlength, -⟩
      rw [List.length_eq_zero_iff.mp hlength]
      rfl
  | succ count ih =>
    -- What is at `k + 1` in the whole list is at `k` behind its head, which begins
    -- at `i + 1`.
    have shift : ∀ k, i + (k + 1) = i + 1 + k := by omega
    constructor
    · intro h
      obtain ⟨child, hchild, h⟩ := Look.exists_of_result_bind h
      obtain ⟨rest, hrest, h⟩ := Look.exists_of_result_bind h
      cases h
      obtain ⟨hlength, hall⟩ := ih.mp hrest
      refine ⟨congrArg (· + 1) hlength, ?_⟩
      rintro (_ | k) other hother
      · cases hother
        exact result_elementChild_eq_ok_iff.mp hchild
      · rw [shift]
        exact hall k other hother
    · rintro ⟨hlength, hall⟩
      obtain ⟨child, rest, rfl⟩ := List.exists_cons_of_length_eq_add_one hlength
      have hchild : (program.elementChild v i).result = .ok child :=
        result_elementChild_eq_ok_iff.mpr (hall 0 child rfl)
      have hrest : (program.elements v (i + 1) count).result = .ok rest := by
        refine ih.mpr ⟨Nat.succ.inj hlength, ?_⟩
        intro k other hother
        rw [← shift]
        exact hall (k + 1) other hother
      rw [elements, Look.result_bind_of_ok hchild, Look.result_bind_of_ok hrest]
      rfl

/-- What stops the list is the fault of the first step that fails. -/
theorem result_elements_eq_error_iff {i count : Nat} {fault : Fault} :
    (program.elements v i count).result = .error fault ↔
      ∃ j, j < i + count ∧ i ≤ j ∧ FirstFailing program v i j fault := by
  induction count generalizing i with
  | zero =>
    constructor
    · intro h
      cases h
    · rintro ⟨j, hj, hi, -⟩
      omega
  | succ count ih =>
    rw [elements, Look.result_bind_eq_error_iff]
    constructor
    · rintro (failed | ⟨child, hchild, h⟩)
      · exact ⟨i, by omega, Nat.le_refl i, result_elementChild_eq_error_iff.mp failed, by omega⟩
      · obtain ⟨-, there⟩ := result_elementChild_eq_ok_iff.mp hchild
        obtain hrest | ⟨rest, -, h⟩ := Look.result_bind_eq_error_iff.mp h
        · obtain ⟨j, hj, first⟩ := ih.mp hrest
          exact ⟨j, by omega, (firstFailing_of_ok there).mpr first⟩
        · cases h
    · rintro ⟨j, hj, first⟩
      obtain ⟨hi, failing, before⟩ := first
      obtain rfl | hlt := Nat.eq_or_lt_of_le hi
      · exact .inl (result_elementChild_eq_error_iff.mpr failing)
      · obtain ⟨w, there⟩ := before i (Nat.le_refl i) hlt
        have hrest : (program.elements v (i + 1) count).result = .error fault :=
          ih.mpr ⟨j, by omega, (firstFailing_of_ok there).mp ⟨hi, failing, before⟩⟩
        exact .inr ⟨⟨s!"[{i}]", w⟩, result_elementChild_eq_ok_iff.mpr ⟨rfl, there⟩,
          Look.result_bind_of_error hrest _⟩

/-! ## Parts -/

/-- With less room the list is cut, and nothing else about it changes. -/
theorem result_parts_of_le {limit fewer : Nat} (hle : fewer ≤ limit) {children : List Child}
    (h : (program.parts v limit).result = .ok children) :
    (program.parts v fewer).result = .ok (children.take fewer) := by
  unfold parts at h ⊢
  split at h
  · next record shape =>
    obtain ⟨addr, haddr, h⟩ := Look.exists_of_result_bind h
    cases h
    rw [Look.result_bind_of_ok haddr, ← List.map_take, List.take_take, Nat.min_eq_left hle]
    rfl
  · next elem length shape =>
    have hlength := length_of_elements h
    rw [result_elements_take h (by omega : min length fewer ≤ min length limit),
      List.take_eq_take_iff.mpr]
    omega
  · cases h
    rw [List.take_nil]
    rfl

section Array

variable {elem : TypeId} {length limit : Nat}

/-- The parts of an array are its elements, as many as there is room for. -/
theorem parts_of_array (shape : program.shape v = .array elem length) (limit : Nat) :
    program.parts v limit = program.elements v 0 (min length limit) := by
  rw [parts, shape]

/-- The elements are listed exactly if each of the steps to them succeeds. -/
theorem result_parts_of_array_eq_ok_iff (shape : program.shape v = .array elem length)
    {children : List Child} :
    (program.parts v limit).result = .ok children ↔
      children.length = min length limit ∧ ∀ i child, children[i]? = some child →
        child.label = s!"[{i}]" ∧ (program.index v i).result = .ok child.value := by
  rw [parts_of_array shape, result_elements_eq_ok_iff]
  simp only [Nat.zero_add]

/-- The fault is that of the first step that fails. -/
theorem result_parts_of_array_eq_error_iff (shape : program.shape v = .array elem length)
    {fault : Fault} :
    (program.parts v limit).result = .error fault ↔
      ∃ i < min length limit, (program.index v i).result = .error fault ∧
        ∀ j < i, ∃ w, (program.index v j).result = .ok w := by
  rw [parts_of_array shape, result_elements_eq_error_iff]
  simp only [FirstFailing, Nat.zero_add, Nat.zero_le, true_and, forall_const]

/-- An array is listed exactly if there is a step to each of the elements that there
is room for. -/
theorem exists_result_parts_of_array_iff (shape : program.shape v = .array elem length) :
    (∃ children, (program.parts v limit).result = .ok children) ↔
      ∀ i < min length limit, ∃ w, (program.index v i).result = .ok w := by
  constructor
  · rintro ⟨children, h⟩ i hi
    obtain ⟨hlength, hall⟩ := (result_parts_of_array_eq_ok_iff shape).mp h
    have inside : i < children.length := by omega
    exact ⟨_, (hall i _ (List.getElem?_eq_getElem inside)).2⟩
  · intro hall
    cases h : (program.parts v limit).result with
    | ok children => exact ⟨children, rfl⟩
    | error fault =>
      obtain ⟨i, hi, failing, -⟩ := (result_parts_of_array_eq_error_iff shape).mp h
      obtain ⟨w, there⟩ := hall i hi
      cases there.symm.trans failing

end Array

/-- **Parts are where steps lead.** The parts listed for a struct in memory are its
fields in order, where the steps to their names lead, though a field behind the last
address is listed and has no step to it. The parts listed for an array are those
that steps by index lead to, and none are listed if one of the steps fails. With
less room a list has the first of the parts. -/
theorem parts_by_step (program : Program) (v : Value) (limit : Nat) :
    (∀ record addr, program.shape v = .record record → record.isDeclaration = false →
      v.place = .stored addr →
      ∃ children, (program.parts v limit).result = .ok children ∧
        children.length = min limit record.fields.length ∧
        ∀ i child, children[i]? = some child →
          ∃ f, record.fields[i]? = some f ∧ child.label = f.name ∧
            child.value = .stored ((addr + f.offset) % addressLimit) f.type ∧
            (FirstOfName record.fields i f →
              (addr + f.offset < addressLimit → program.field v f.name = .ok child.value) ∧
              ((∃ fault, program.field v f.name = .error fault ∧ fault.code = .sanity) ↔
                addressLimit ≤ addr + f.offset))) ∧
    (∀ elem length, program.shape v = .array elem length →
      ((∃ children, (program.parts v limit).result = .ok children) ↔
        ∀ i < min length limit, ∃ w, (program.index v i).result = .ok w) ∧
      (∀ children, (program.parts v limit).result = .ok children →
        children.length = min length limit ∧
        ∀ i child, children[i]? = some child →
          child.label = s!"[{i}]" ∧ (program.index v i).result = .ok child.value) ∧
      ∀ fault, (program.parts v limit).result = .error fault ↔
        ∃ i < min length limit, (program.index v i).result = .error fault ∧
          ∀ j < i, ∃ w, (program.index v j).result = .ok w) ∧
    ∀ fewer many, fewer ≤ limit → (program.parts v limit).result = .ok many →
      ∃ few, (program.parts v fewer).result = .ok few ∧ few <+: many := by
  refine ⟨?_, ?_, ?_⟩
  · intro record addr shape complete place
    refine ⟨_, result_parts_of_record shape place limit, by simp, ?_⟩
    intro i child hchild
    obtain ⟨f, hf, rfl⟩ := Option.map_eq_some_iff.mp ((List.getElem?_map ..).symm.trans hchild)
    have listed : record.fields[i]? = some f := by
      rw [List.getElem?_take] at hf
      split at hf
      · exact hf
      · cases hf
    exact ⟨f, listed, rfl, rfl, fun first => field_fieldChild shape complete place first⟩
  · intro elem length shape
    exact ⟨exists_result_parts_of_array_iff shape,
      fun children => (result_parts_of_array_eq_ok_iff shape).mp,
      fun fault => result_parts_of_array_eq_error_iff shape⟩
  · intro fewer many hle h
    exact ⟨_, result_parts_of_le hle h, List.take_prefix _ _⟩

/-! ### The last word of memory

A struct with two fields of one name that begins at the last word of all, and an
array there. -/

/-- A word, a struct of three of them, a name for it, and an array of three. -/
def wordProgram : Program where
  types := ⟨#[.unknown, ⟨"u64", 8, 8, .primitive {}⟩,
    ⟨"Words", 24, 8, .record ⟨[⟨"a", 0, 1⟩, ⟨"b", 8, 1⟩, ⟨"a", 16, 1⟩], false, false⟩⟩,
    ⟨"Words_t", 24, 8, .typedef 2⟩, ⟨"", 24, 8, .array 1 3⟩]⟩
  memory := Snapshot.empty.memory

/-- The struct is listed around the end of memory, while only the first of its
fields is stepped to. No two elements of the array are listed, but the first alone
is. -/
theorem parts_by_step_last_word :
    (wordProgram.parts (.stored 0xfffffffffffffff8 3) 2).result =
      .ok [⟨"a", .stored 0xfffffffffffffff8 1⟩, ⟨"b", .stored 0 1⟩] ∧
    wordProgram.field (.stored 0xfffffffffffffff8 3) "a" = .ok (.stored 0xfffffffffffffff8 1) ∧
    (∃ fault, wordProgram.field (.stored 0xfffffffffffffff8 3) "b" = .error fault ∧
      fault.code = .sanity) ∧
    (wordProgram.parts (.stored 0xfffffffffffffff8 4) 2).result =
      .error (.elementOverflow 0xfffffffffffffff8 1 8) ∧
    (∃ few, (wordProgram.parts (.stored 0xfffffffffffffff8 3) 1).result = .ok few ∧
      few <+: [⟨"a", .stored 0xfffffffffffffff8 1⟩, ⟨"b", .stored 0 1⟩]) := by
  have listed : (wordProgram.parts (.stored 0xfffffffffffffff8 3) 2).result =
    .ok [⟨"a", .stored 0xfffffffffffffff8 1⟩, ⟨"b", .stored 0 1⟩] := rfl
  obtain ⟨fields, -, shorter⟩ := parts_by_step wordProgram (.stored 0xfffffffffffffff8 3) 2
  obtain ⟨-, elements, -⟩ := parts_by_step wordProgram (.stored 0xfffffffffffffff8 4) 2
  obtain ⟨children, h, -, agree⟩ := fields _ _ rfl rfl rfl
  cases listed.symm.trans h
  obtain ⟨a, ha, -, -, first⟩ := agree 0 _ rfl
  cases ha
  obtain ⟨b, hb, -, -, second⟩ := agree 1 _ rfl
  cases hb
  refine ⟨listed, ?_, ?_, ?_, ?_⟩
  · exact (first ⟨rfl, by decide⟩).1 (by decide)
  · exact (second ⟨rfl, by decide⟩).2.mpr (by decide)
  · refine ((elements _ _ rfl).2.2 _).mpr ⟨1, by decide, rfl, ?_⟩
    intro j hj
    obtain rfl : j = 0 := by omega
    exact ⟨_, rfl⟩
  · exact shorter 1 _ (by decide) listed

end HeapLens.Program
