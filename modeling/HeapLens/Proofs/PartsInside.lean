import HeapLens.Memory.Snapshot
import HeapLens.Proofs.TypeGrowth
import HeapLens.Value.Step
import Mathlib.Data.List.Pairwise

/-!
# The parts of a value lie inside it

A path of fields and of elements of arrays leads from a value to a part of it; no
pointer is followed on the way (`Program.Inside`). Where the part lies is decided by
offsets and sizes that the table of types has written down, so all rests on the
table being sound.

> `LeadsTo.within`: one step leads to bytes of the value.
> `LeadsTo.apart`: two different steps from one value share no byte, unless it is a
> union.

Both are carried along paths: a part of a part is within (`Inside.within`), and what
lies within two values that lie apart lies apart (`Apart.mono`). Since the entries
that a path has gone through do not change any more, it leads to the same part when
the table has grown (`Inside.of_grows`).
-/

namespace HeapLens

/-! ## Places of parts -/

namespace TypeTable

variable {table : TypeTable} {u v w : Value}

/-- The bytes of `part` are bytes of `whole`. -/
def Within (table : TypeTable) (part whole : Value) : Prop :=
  ∃ addr start, whole.place = .stored addr ∧ part.place = .stored start ∧ addr ≤ start ∧
    start + table.sizeOf part.type ≤ addr + table.sizeOf whole.type

/-- The two have no byte in common. -/
def Apart (table : TypeTable) (v w : Value) : Prop :=
  ∃ addr addr', v.place = .stored addr ∧ w.place = .stored addr' ∧
    (addr + table.sizeOf v.type ≤ addr' ∨ addr' + table.sizeOf w.type ≤ addr)

/-- One of two fields ends before the other begins. -/
def FieldsApart (table : TypeTable) (f g : Field) : Prop :=
  f.offset + table.sizeOf f.type ≤ g.offset ∨ g.offset + table.sizeOf g.type ≤ f.offset

instance (table : TypeTable) : Std.Symm table.FieldsApart := ⟨fun _ _ => Or.symm⟩

theorem Within.refl (table : TypeTable) {addr : Nat} (h : v.place = .stored addr) :
    table.Within v v := ⟨addr, addr, h, h, Nat.le_refl _, Nat.le_refl _⟩

theorem Within.trans (inner : table.Within u v) (outer : table.Within v w) : table.Within u w := by
  obtain ⟨mid, start, hmid, hstart, hle, hstop⟩ := inner
  obtain ⟨addr, mid', haddr, hmid', hle', hstop'⟩ := outer
  cases hmid.symm.trans hmid'
  exact ⟨addr, start, haddr, hstart, by omega, by omega⟩

theorem Apart.symm (h : table.Apart v w) : table.Apart w v := by
  obtain ⟨addr, addr', hv, hw, hsides⟩ := h
  exact ⟨addr', addr, hw, hv, hsides.symm⟩

/-- What lies within values that lie apart lies apart. -/
theorem Apart.mono {v' w' : Value} (h : table.Apart v w) (hv : table.Within v' v)
    (hw : table.Within w' w) : table.Apart v' w' := by
  obtain ⟨addr, addr', haddr, haddr', hsides⟩ := h
  obtain ⟨_, start, hsame, hstart, hle, hstop⟩ := hv
  obtain ⟨_, start', hsame', hstart', hle', hstop'⟩ := hw
  cases haddr.symm.trans hsame
  cases haddr'.symm.trans hsame'
  refine ⟨start, start', hstart, hstart', ?_⟩
  omega

end TypeTable

namespace Program

variable {program : Program} {u v w : Value}

/-! ## One step -/

/-- A step that follows no pointer: to a field, or to an element of an array. -/
def StepsInto (program : Program) (v : Value) : Step → Prop
  | .field _ => True
  | .index _ => ∃ elem length, program.shape v = .array elem length
  | .dereference => False

/-- A union's fields share their place. -/
def isUnion (program : Program) (v : Value) : Bool :=
  match program.shape v with
  | .record record => record.isUnion
  | _ => false

/-- The part to which a step leads, with what makes the step succeed. -/
inductive LeadsTo (program : Program) (v : Value) : Step → Value → Prop where
  | field {name : String} {f : Field} {addr : Nat}
      (found : program.types.findField v.type name = .ok f) (place : v.place = .stored addr)
      (fits : addr + f.offset < addressLimit) :
      LeadsTo program v (.field name) (.stored (addr + f.offset) f.type)
  | element {i length addr : Nat} {elem : TypeId} (shape : program.shape v = .array elem length)
      (inside : i < length) (place : v.place = .stored addr) (notNull : addr ≠ 0)
      (sized : program.types.sizeOf elem ≠ 0)
      (fits : addr + i * program.types.sizeOf elem < addressLimit) :
      LeadsTo program v (.index i) (.stored (addr + i * program.types.sizeOf elem) elem)

/-- These are all the steps that succeed. -/
theorem leadsTo_iff {s : Step} :
    program.LeadsTo v s w ↔ program.StepsInto v s ∧ (program.step v s).result = .ok w := by
  constructor
  · intro h
    cases h with
    | field found place fits =>
      exact ⟨trivial, field_eq_ok_iff.mpr ⟨_, _, found, place, fits, rfl⟩⟩
    | element shape inside place notNull sized fits =>
      have found := elementAt_eq_ok_iff.mpr ⟨notNull, sized, fits, rfl⟩
      exact ⟨⟨_, _, shape⟩, (result_index_of_array shape).mpr ⟨inside, _, place, found⟩⟩
  · rintro ⟨direct, found⟩
    cases s with
    | field name =>
      obtain ⟨f, addr, hfield, place, fits, rfl⟩ := field_eq_ok_iff.mp found
      exact .field hfield place fits
    | index i =>
      obtain ⟨elem, length, shape⟩ := direct
      obtain ⟨inside, addr, place, found⟩ := (result_index_of_array shape).mp found
      obtain ⟨notNull, sized, fits, rfl⟩ := elementAt_eq_ok_iff.mp found
      exact .element shape inside place notNull sized fits
    | dereference => exact direct.elim

/-- One step leads to bytes of the value: fields and elements end before the whole
does. -/
theorem LeadsTo.within {s : Step} (sound : program.types.Sound) (h : program.LeadsTo v s w) :
    program.types.Within w v := by
  cases h with
  | @field name f addr found place fits =>
    obtain ⟨-, record, shape, hf⟩ := TypeTable.mem_of_findField found
    have le := ((sound.fits _).inside record shape f hf).2
    refine ⟨addr, addr + f.offset, place, rfl, Nat.le_add_right _ _, ?_⟩
    show addr + f.offset + program.types.sizeOf f.type ≤ addr + program.types.sizeOf v.type
    rw [Nat.add_assoc]
    exact Nat.add_le_add_left le addr
  | @element i length addr elem shape inside place notNull sized fits =>
    have size : program.types.sizeOf v.type = program.types.sizeOf elem * length :=
      ((sound.fits _).array elem length shape).2
    have le := Nat.mul_le_mul_left (program.types.sizeOf elem) inside
    refine ⟨addr, addr + i * program.types.sizeOf elem, place, rfl, Nat.le_add_right _ _, ?_⟩
    show addr + i * program.types.sizeOf elem + program.types.sizeOf elem ≤
      addr + program.types.sizeOf v.type
    rw [Nat.mul_succ, Nat.mul_comm] at le
    omega

/-- Elements at different places of an array. -/
theorem apart_of_lt {addr i j : Nat} {elem : TypeId} (h : i < j) :
    program.types.Apart (.stored (addr + i * program.types.sizeOf elem) elem)
      (.stored (addr + j * program.types.sizeOf elem) elem) := by
  have le := Nat.mul_le_mul_right (program.types.sizeOf elem) (Nat.succ_le_of_lt h)
  refine ⟨_, _, rfl, rfl, Or.inl ?_⟩
  show addr + i * program.types.sizeOf elem + program.types.sizeOf elem ≤
    addr + j * program.types.sizeOf elem
  rw [Nat.succ_mul] at le
  omega

/-- Fields of a struct follow one another, and so do elements of an array. -/
theorem LeadsTo.apart {s s' : Step} (sound : program.types.Sound) (h : program.LeadsTo v s w)
    (h' : program.LeadsTo v s' u) (ne : s ≠ s') (notUnion : program.isUnion v = false) :
    program.types.Apart w u := by
  cases h with
  | @field name f addr found place fits =>
    cases h' with
    | @field name' f' addr' found' place' fits' =>
      cases place.symm.trans place'
      obtain ⟨hname, record, shape, hf⟩ := TypeTable.mem_of_findField found
      obtain ⟨hname', record', shape', hf'⟩ := TypeTable.mem_of_findField found'
      cases shape.symm.trans shape'
      have different : f ≠ f' := by
        rintro rfl
        exact ne (congrArg Step.field (hname.symm.trans hname'))
      have alone : record.isUnion = false := by
        unfold isUnion at notUnion
        have shape : program.shape v = .record record := shape
        rw [shape] at notUnion
        exact notUnion
      -- Fields are listed by ascending offsets, so one of the two comes first.
      have ordered : record.fields.Pairwise program.types.FieldsApart :=
        ((sound.fits _).apart record shape alone).imp Or.inl
      have sides : program.types.FieldsApart f f' := ordered.forall hf hf' different
      unfold TypeTable.FieldsApart at sides
      refine ⟨_, _, rfl, rfl, ?_⟩
      show addr + f.offset + program.types.sizeOf f.type ≤ addr + f'.offset ∨
        addr + f'.offset + program.types.sizeOf f'.type ≤ addr + f.offset
      omega
    | element shape' =>
      obtain ⟨-, record, shape, -⟩ := TypeTable.mem_of_findField found
      cases shape.symm.trans shape'
  | @element i length addr elem shape inside place notNull sized fits =>
    cases h' with
    | field found' =>
      obtain ⟨-, record, shape', -⟩ := TypeTable.mem_of_findField found'
      cases shape.symm.trans shape'
    | @element j length' addr' elem' shape' inside' place' notNull' sized' fits' =>
      cases shape.symm.trans shape'
      cases place.symm.trans place'
      have different : i ≠ j := fun same => ne (congrArg Step.index same)
      rcases Nat.lt_or_gt_of_ne different with before | behind
      · exact apart_of_lt before
      · exact (apart_of_lt behind).symm

/-- What has parts has a size that is known. -/
theorem LeadsTo.settled {s : Step} (h : program.LeadsTo v s w) : program.types.Settled v.type := by
  cases h with
  | field found _ _ =>
    obtain ⟨record, shape, complete, -⟩ := TypeTable.findField_eq_ok_iff.mp found
    refine TypeTable.settled_of_shape (by rw [shape]; exact Shape.noConfusion) ?_
    unfold TypeTable.isDeclared
    rw [shape]
    exact complete
  | element shape _ _ _ _ _ =>
    have shape : program.types.shape (program.types.strip v.type) = .array _ _ := shape
    refine TypeTable.settled_of_shape (by rw [shape]; exact Shape.noConfusion) ?_
    unfold TypeTable.isDeclared
    rw [shape]

section

variable {before after : TypeTable} {memory memory' : Memory}

/-- A value with parts keeps its shape, since only a struct without fields is ever
completed. -/
theorem LeadsTo.shape_of_grows {s : Step} (h : Program.LeadsTo ⟨before, memory⟩ v s w)
    (grows : TypeTable.Grows before after) (sound : before.Sound) :
    Program.shape ⟨after, memory'⟩ v = Program.shape ⟨before, memory⟩ v :=
  congrArg TypeEntry.shape (grows.resolve_eq sound h.settled).2

/-- A step leads to the same part when the table has grown. -/
theorem LeadsTo.of_grows {s : Step} (h : Program.LeadsTo ⟨before, memory⟩ v s w)
    (grows : TypeTable.Grows before after) (sound : before.Sound) :
    Program.LeadsTo ⟨after, memory'⟩ v s w := by
  have same : Program.shape ⟨after, memory'⟩ v = Program.shape ⟨before, memory⟩ v :=
    h.shape_of_grows grows sound
  cases h with
  | field found place fits =>
    obtain ⟨record, shape, complete, first⟩ := TypeTable.findField_eq_ok_iff.mp found
    have shape' : after.shape (after.strip v.type) = .record record := same.trans shape
    exact .field (TypeTable.findField_eq_ok_iff.mpr ⟨record, shape', complete, first⟩) place fits
  | @element i length addr elem shape inside place notNull sized fits =>
    -- The stride is the size of the elements, which the array has taken from a
    -- settled type.
    have stride : after.sizeOf elem = before.sizeOf elem :=
      grows.sizeOf_eq sound ((sound.fits _).array elem length shape).1
    have element : Program.LeadsTo ⟨after, memory'⟩ v (.index i)
        (.stored (addr + i * after.sizeOf elem) elem) :=
      .element (same.trans shape) inside place notNull (stride ▸ sized) (stride ▸ fits)
    rwa [stride] at element

end

/-! ## Paths -/

/-- A path leads from a value to a part of it. -/
inductive Inside (program : Program) : Value → List Step → Value → Prop where
  | here (v : Value) : Inside program v [] v
  | step {v u w : Value} {s : Step} {path : List Step} (direct : program.StepsInto v s)
      (found : (program.step v s).result = .ok u) (rest : Inside program u path w) :
      Inside program v (s :: path) w

/-- Where the steps of two paths from `v` first differ, both have come to `u`. -/
def FirstDiffer (program : Program) (v : Value) (path path' : List Step) (u : Value) : Prop :=
  ∃ common s s' rest rest', s ≠ s' ∧ path = common ++ s :: rest ∧ path' = common ++ s' :: rest' ∧
    program.Inside v common u

variable {path rest : List Step}

/-- The path is one that can be followed. -/
theorem Inside.result_follow (h : program.Inside v path w) :
    (program.follow v path).result = .ok w := by
  induction h with
  | here v => rfl
  | step direct found rest ih =>
    unfold follow at ih ⊢
    rw [List.foldlM_cons, Look.result_bind_of_ok found, ih]

/-- A path leads to one part. -/
theorem Inside.unique (h : program.Inside v path u) (h' : program.Inside v path w) : u = w := by
  have same := h.result_follow.symm.trans h'.result_follow
  exact Except.ok.inj same

/-- A path goes through the parts that its beginnings lead to. -/
theorem Inside.split (h : program.Inside v (path ++ rest) w) :
    ∃ u, program.Inside v path u ∧ program.Inside u rest w := by
  induction path generalizing v with
  | nil => exact ⟨v, .here v, h⟩
  | cons s path ih =>
    cases h with
    | step direct found more =>
      obtain ⟨u, hpath, hrest⟩ := ih more
      exact ⟨u, .step direct found hpath, hrest⟩

/-- By induction on the path, every part is within the whole. -/
theorem Inside.within (sound : program.types.Sound) (h : program.Inside v path w)
    (stored : ∃ addr, v.place = .stored addr) : program.types.Within w v := by
  induction h with
  | here v =>
    obtain ⟨addr, place⟩ := stored
    exact .refl _ place
  | step direct found rest ih =>
    have inner := (leadsTo_iff.mpr ⟨direct, found⟩).within sound
    obtain ⟨_, start, -, place, -⟩ := id inner
    exact (ih ⟨start, place⟩).trans inner

/-- By induction on the path, it leads to the same part in a table that has
grown. -/
theorem Inside.of_grows {before after : TypeTable} {memory memory' : Memory}
    (h : Program.Inside ⟨before, memory⟩ v path w) (grows : TypeTable.Grows before after)
    (sound : before.Sound) : Program.Inside ⟨after, memory'⟩ v path w := by
  induction h with
  | here v => exact .here v
  | step direct found rest ih =>
    have part : Program.LeadsTo ⟨after, memory'⟩ _ _ _ :=
      (leadsTo_iff.mpr ⟨direct, found⟩).of_grows grows sound
    obtain ⟨direct', found'⟩ := leadsTo_iff.mp part
    exact .step direct' found' ih

/-- Two paths differ where they did when the table has grown, and a union is one as
before. -/
theorem FirstDiffer.of_grows {before after : TypeTable} {memory memory' : Memory}
    {path' : List Step} (differ : FirstDiffer ⟨before, memory⟩ v path path' u)
    (h : Program.Inside ⟨before, memory⟩ v path w) (grows : TypeTable.Grows before after)
    (sound : before.Sound) :
    FirstDiffer ⟨after, memory'⟩ v path path' u ∧
      isUnion ⟨after, memory'⟩ u = isUnion ⟨before, memory⟩ u := by
  obtain ⟨common, s, s', rest, rest', ne, rfl, rfl, hcommon⟩ := differ
  refine ⟨⟨common, s, s', rest, rest', ne, rfl, rfl, hcommon.of_grows grows sound⟩, ?_⟩
  obtain ⟨u', hu', h⟩ := h.split
  cases hu'.unique hcommon
  cases h with
  | step direct found more =>
    have same : Program.shape ⟨after, memory'⟩ u = Program.shape ⟨before, memory⟩ u :=
      (leadsTo_iff.mpr ⟨direct, found⟩).shape_of_grows grows sound
    unfold isUnion
    rw [same]

/-- Two paths that differ first at a value that is no union. -/
theorem Inside.apart (sound : program.types.Sound) {path' : List Step} {w' : Value}
    (h : program.Inside v path w) (h' : program.Inside v path' w')
    (differ : program.FirstDiffer v path path' u) (notUnion : program.isUnion u = false) :
    program.types.Apart w w' := by
  obtain ⟨common, s, s', rest, rest', ne, rfl, rfl, hcommon⟩ := differ
  obtain ⟨u₁, hu₁, h⟩ := h.split
  obtain ⟨u₂, hu₂, h'⟩ := h'.split
  cases hu₁.unique hcommon
  cases hu₂.unique hcommon
  cases h with
  | step direct found more =>
    cases h' with
    | step direct' found' more' =>
      have part := leadsTo_iff.mpr ⟨direct, found⟩
      have part' := leadsTo_iff.mpr ⟨direct', found'⟩
      obtain ⟨_, start, -, place, -⟩ := part.within sound
      obtain ⟨_, start', -, place', -⟩ := part'.within sound
      exact (part.apart sound part' ne notUnion).mono (more.within sound ⟨start, place⟩)
        (more'.within sound ⟨start', place'⟩)

/-- Of two paths one goes on where the other ends, or there is a place where they
first differ. -/
theorem exists_firstDiffer {path' : List Step} {w' : Value} (h : program.Inside v path w)
    (h' : program.Inside v path' w') (hpre : ¬ path <+: path') (hpre' : ¬ path' <+: path) :
    ∃ u, program.FirstDiffer v path path' u := by
  induction path generalizing v path' with
  | nil => exact absurd (List.nil_prefix ..) hpre
  | cons s path ih =>
    cases h' with
    | here => exact absurd (List.nil_prefix ..) hpre'
    | @step _ _ _ s' path' direct' found' more' =>
      by_cases same : s = s'
      · subst same
        cases h with
        | step direct found more =>
          cases found.symm.trans found'
          rw [List.prefix_cons_inj] at hpre hpre'
          obtain ⟨u, common, a, a', rest, rest', ne, rfl, rfl, hcommon⟩ := ih more more' hpre hpre'
          exact ⟨u, s :: common, a, a', rest, rest', ne, rfl, rfl, .step direct found hcommon⟩
      · exact ⟨v, [], s, s', path, path', same, rfl, rfl, .here v⟩

/-- **Parts lie inside their value and do not overlap.** Of a table that is put
together in order:

1. a path of fields and elements leads to bytes of the value that it starts from;
2. of two paths neither of which goes on with the other there is a value at which
   they first differ, and if that is no union, the parts have no byte in common;
3. a table that goes on to grow in order changes nothing of this: the paths lead to
   the same parts, which lie inside and apart by the sizes that the types have
   then. -/
theorem parts_inside (ops later : List TypeTable.Op)
    (orderly : TypeTable.empty.Orderly (ops ++ later)) (memory memory' : Memory) (addr : Nat)
    (t : TypeId) :
    (∀ path w, Inside ⟨.run ops, memory⟩ (.stored addr t) path w →
      (TypeTable.run ops).Within w (.stored addr t) ∧
      Inside ⟨.run (ops ++ later), memory'⟩ (.stored addr t) path w ∧
      (TypeTable.run (ops ++ later)).Within w (.stored addr t)) ∧
    (∀ path path' w w', Inside ⟨.run ops, memory⟩ (.stored addr t) path w →
      Inside ⟨.run ops, memory⟩ (.stored addr t) path' w' →
      (¬ path <+: path' → ¬ path' <+: path →
        ∃ u, FirstDiffer ⟨.run ops, memory⟩ (.stored addr t) path path' u) ∧
      ∀ u, FirstDiffer ⟨.run ops, memory⟩ (.stored addr t) path path' u →
        isUnion ⟨.run ops, memory⟩ u = false →
        (TypeTable.run ops).Apart w w' ∧ (TypeTable.run (ops ++ later)).Apart w w') := by
  have sound : (TypeTable.run ops).Sound :=
    TypeTable.sound_run ((TypeTable.orderly_append later).mp orderly).1
  have sound' : (TypeTable.run (ops ++ later)).Sound := TypeTable.sound_run orderly
  have grows : TypeTable.Grows (.run ops) (.run (ops ++ later)) := by
    unfold TypeTable.run
    rw [List.foldl_append]
    exact TypeTable.grows_foldl later _
  refine ⟨?_, ?_⟩
  · intro path w h
    have h' : Inside ⟨.run (ops ++ later), memory'⟩ (.stored addr t) path w :=
      h.of_grows grows sound
    have early := h.within sound ⟨addr, rfl⟩
    have late := h'.within sound' ⟨addr, rfl⟩
    exact ⟨early, h', late⟩
  · intro path path' w w' h h'
    refine ⟨exists_firstDiffer h h', ?_⟩
    intro u differ notUnion
    have later : Inside ⟨.run (ops ++ later), memory'⟩ (.stored addr t) path w :=
      h.of_grows grows sound
    obtain ⟨differ', same⟩ := differ.of_grows h grows sound
    have early := h.apart sound h' differ notUnion
    have late := later.apart sound' (h'.of_grows grows sound) differ' (same.trans notUnion)
    exact ⟨early, late⟩

/-! ### A pair in a node

The elements of an array in a struct, before and after the struct of a node is
completed with such a struct in it. -/

/-- A struct of a byte and three integers, a name for it, and a node that can be
pointed to. -/
def pairOps : List TypeTable.Op :=
  [.primitive "u8" 1 {}, .primitive "i32" 4 { signed := true }, .array 2 3,
    .record "Pair" false [⟨"a", 1⟩, ⟨"b", 3⟩],
    TypeTable.Op.typedef "Pair_t" 4, .declare "Node", .pointer 6]

def nodeOps : List TypeTable.Op := [.complete 6 "Node" false [⟨"next", 7⟩, ⟨"pair", 5⟩]]

def pairProgram : Program := ⟨.run pairOps, Snapshot.empty.memory⟩

theorem inside_pair_element {i : Nat} {w : Value}
    (found : (pairProgram.index (.stored 0x1004 3) i).result = .ok w) :
    pairProgram.Inside (.stored 0x1000 5) [.field "b", .index i] w :=
  .step trivial rfl (.step ⟨2, 3, rfl⟩ found (.here w))

/-- The first and the last element lie apart, and they still do when the node is
complete. -/
theorem parts_inside_pair :
    TypeTable.empty.Orderly (pairOps ++ nodeOps) ∧
    pairProgram.Inside (.stored 0x1000 5) [.field "b", .index 0] (.stored 0x1004 2) ∧
    pairProgram.Inside (.stored 0x1000 5) [.field "b", .index 2] (.stored 0x100c 2) ∧
    (TypeTable.run (pairOps ++ nodeOps)).Within (.stored 0x100c 2) (.stored 0x1000 5) ∧
    (TypeTable.run (pairOps ++ nodeOps)).Apart (.stored 0x1004 2) (.stored 0x100c 2) := by
  have orderly : TypeTable.empty.Orderly (pairOps ++ nodeOps) := by decide
  have first : pairProgram.Inside (.stored 0x1000 5) [.field "b", .index 0] (.stored 0x1004 2) :=
    inside_pair_element rfl
  have last : pairProgram.Inside (.stored 0x1000 5) [.field "b", .index 2] (.stored 0x100c 2) :=
    inside_pair_element rfl
  have differ : pairProgram.FirstDiffer (.stored 0x1000 5) [.field "b", .index 0]
      [.field "b", .index 2] (.stored 0x1004 3) :=
    ⟨[.field "b"], .index 0, .index 2, [], [], by decide, rfl, rfl, .step trivial rfl (.here _)⟩
  have notUnion : pairProgram.isUnion (.stored 0x1004 3) = false := rfl
  obtain ⟨within, apart⟩ := parts_inside pairOps nodeOps orderly Snapshot.empty.memory
    Snapshot.empty.memory 0x1000 5
  have hw := (within _ _ last).2.2
  have ha := ((apart _ _ _ _ first last).2 _ differ notUnion).2
  exact ⟨orderly, first, last, hw, ha⟩

end Program

end HeapLens
