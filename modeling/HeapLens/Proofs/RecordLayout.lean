import HeapLens.Memory.Snapshot
import HeapLens.Proofs.TypeGrowth
import HeapLens.Value.Step
import Mathlib.Algebra.Group.Nat.Defs
import Mathlib.Data.List.Chain
import Mathlib.Order.Bounds.Basic

/-!
# Structs and unions have the layout of C

What a C compiler makes of members is said without rounding, by what is least and
what is largest:

> `IsCLayout`: each field of a struct is at the least multiple of its alignment that
> is not before the end of the field in front of it.

There is one such layout, and `layOut` makes it (`layOut_eq_iff`). Alignments need
not be powers of two for that. If they are, the largest is a multiple of all others,
and the steps through an array of structs lead to fields that are aligned
(`IsCLayout.arrayAligned`).
-/

namespace HeapLens.TypeTable

variable {table : TypeTable} {isUnion : Bool} {members : List Member} {fields : List Field}

/-- The first offset behind a field. -/
def fieldEnd (table : TypeTable) (f : Field) : Nat := f.offset + table.sizeOf f.type

/-- The alignment that counts for a type, which is at least one. -/
def alignAt (table : TypeTable) (t : TypeId) : Nat := max (table.alignOf t) 1

/-- A field is at the least multiple of its alignment from `stop` on. -/
def Follows (table : TypeTable) (stop : Nat) (f : Field) : Prop :=
  IsLeast {offset | table.alignAt f.type ∣ offset ∧ stop ≤ offset} f.offset

/-- `fields`, `size` and `align` are what a C compiler makes of a struct or union
with `members`. -/
structure IsCLayout (table : TypeTable) (isUnion : Bool) (members : List Member)
    (fields : List Field) (size align : Nat) : Prop where
  /-- The fields have the names and types of the members, in their order. -/
  named : fields.map (fun f => (f.name, f.type)) = members.map fun m => (m.name, m.type)
  union : isUnion = true → ∀ f ∈ fields, f.offset = 0
  first : isUnion = false → ∀ f ∈ fields.head?, f.offset = 0
  next : isUnion = false → fields.IsChain fun f g => table.Follows (table.fieldEnd f) g
  largest : IsGreatest ({1} ∪ {a | ∃ f ∈ fields, table.alignOf f.type = a}) align
  padded : IsLeast {x | align ∣ x ∧ ∀ f ∈ fields, table.fieldEnd f ≤ x} size

/-- In a program where `elem` is laid out as `entry`, an array of it that begins at
a multiple of its alignment has all fields of all elements at multiples of
theirs. -/
def ArrayAligned (table : TypeTable) (entry : TypeEntry) : Prop :=
  ∀ (program : Program) (elem : TypeId) (array : Value) (base length : Nat),
    program.types.resolve elem = entry → program.shape array = .array elem length →
    array.place = .stored base → entry.align ∣ base →
    ∀ i element name field, (program.index array i).result = .ok element →
      program.field element name = .ok field →
      ∃ addr, field.place = .stored addr ∧ table.alignAt field.type ∣ addr

/-! ## Places of fields -/

/-- Rounding up gives the least aligned number that is not below. -/
theorem isLeast_roundUp (stop align : Nat) :
    IsLeast {x | max align 1 ∣ x ∧ stop ≤ x} (roundUp stop align) :=
  ⟨⟨dvd_roundUp stop align, le_roundUp stop align⟩, fun _ h => roundUp_le h.1 h.2⟩

/-- There is one place for a field behind the others. -/
theorem follows_iff {stop : Nat} {f : Field} :
    table.Follows stop f ↔ f.offset = roundUp stop (table.alignOf f.type) :=
  ⟨fun h => h.unique (isLeast_roundUp _ _), fun h => by
    unfold Follows
    rw [h]
    exact isLeast_roundUp _ _⟩

/-- Nothing comes before the start. -/
theorem follows_zero_iff {f : Field} : table.Follows 0 f ↔ f.offset = 0 := by
  constructor
  · intro h
    exact Nat.le_zero.mp (h.2 ⟨Nat.dvd_zero _, Nat.le_refl 0⟩)
  · intro h
    unfold Follows
    rw [h]
    exact ⟨⟨Nat.dvd_zero _, Nat.le_refl 0⟩, fun _ _ => Nat.zero_le _⟩

/-- In a struct each field follows the one in front of it, and nothing else is asked
of the places. -/
theorem eq_placeFrom_struct_iff {stop : Nat} :
    fields = table.placeFrom false stop members ↔
      fields.map (fun f => (f.name, f.type)) = members.map (fun m => (m.name, m.type)) ∧
        (∀ f ∈ fields.head?, table.Follows stop f) ∧
        fields.IsChain fun f g => table.Follows (table.fieldEnd f) g := by
  induction members generalizing fields stop with
  | nil => cases fields <;> simp [placeFrom]
  | cons m rest ih =>
    cases fields with
    | nil => simp [placeFrom]
    | cons f fields =>
      rw [placeFrom, List.cons.injEq, List.isChain_cons]
      constructor
      · rintro ⟨rfl, tail⟩
        have again := ih.mp tail
        exact ⟨by simp [again.1], by simp [follows_iff], again.2⟩
      · rintro ⟨named, first, next, chain⟩
        rw [List.map_cons, List.map_cons, List.cons.injEq, Prod.mk.injEq] at named
        obtain ⟨⟨name, type⟩, named⟩ := named
        have offset := follows_iff.mp (first f rfl)
        have here : f = ⟨m.name, roundUp stop (table.alignOf m.type), m.type⟩ := by
          rw [type] at offset
          cases f
          simp_all
        refine ⟨here, ih.mpr ⟨named, ?_, chain⟩⟩
        subst here
        exact next

/-- In a union all fields are at the start. -/
theorem eq_placeFrom_union_iff {stop : Nat} :
    fields = table.placeFrom true stop members ↔
      fields.map (fun f => (f.name, f.type)) = members.map (fun m => (m.name, m.type)) ∧
        ∀ f ∈ fields, f.offset = 0 := by
  induction members generalizing fields stop with
  | nil => cases fields <;> simp [placeFrom]
  | cons m rest ih =>
    cases fields with
    | nil => simp [placeFrom]
    | cons f fields =>
      rw [placeFrom, List.cons.injEq, ih]
      cases f
      simp only [List.map_cons, List.cons.injEq, Prod.mk.injEq, List.forall_mem_cons,
        Field.mk.injEq, if_true]
      tauto

/-- Each field is aligned, in a union as well. -/
theorem alignAt_dvd_of_mem_placeFrom {stop : Nat} {f : Field}
    (h : f ∈ table.placeFrom isUnion stop members) : table.alignAt f.type ∣ f.offset := by
  induction members generalizing stop with
  | nil => cases h
  | cons m rest ih =>
    rcases List.mem_cons.mp h with rfl | h
    · dsimp only
      split
      · exact Nat.dvd_zero _
      · exact dvd_roundUp _ _
    · exact ih h

/-! ## The whole -/

/-- What is behind each field is behind all of them. -/
theorem extent_le_iff {x : Nat} :
    table.extent fields ≤ x ↔ ∀ f ∈ fields, table.fieldEnd f ≤ x := by
  induction fields with
  | nil => simp [extent]
  | cons f fields ih =>
    rw [List.forall_mem_cons, ← ih]
    exact Nat.max_le

theorem alignment_pos (table : TypeTable) (members : List Member) :
    1 ≤ table.alignment members := by
  induction members with
  | nil => exact Nat.le_refl 1
  | cons m rest ih => exact Nat.le_trans ih (Nat.le_max_right _ _)

/-- The largest alignment is that of a field, or one. -/
theorem isGreatest_alignment (table : TypeTable) (members : List Member) :
    IsGreatest ({1} ∪ {a | ∃ m ∈ members, table.alignOf m.type = a}) (table.alignment members) := by
  induction members with
  | nil => simp [alignment]
  | cons m rest ih =>
    have split : ({1} ∪ {a | ∃ n ∈ m :: rest, table.alignOf n.type = a} : Set Nat) =
        insert (table.alignOf m.type) ({1} ∪ {a | ∃ n ∈ rest, table.alignOf n.type = a}) := by
      ext a
      simp only [List.exists_mem_cons_iff, Set.mem_union, Set.mem_singleton_iff, Set.mem_ofPred_eq,
        Set.mem_insert_iff]
      tauto
    rw [split]
    exact ih.insert _

/-- Alignments are those of the members' types, and the fields have these. -/
theorem exists_field_iff {p : TypeId → Prop}
    (named : fields.map (fun f => (f.name, f.type)) = members.map fun m => (m.name, m.type)) :
    (∃ f ∈ fields, p f.type) ↔ ∃ m ∈ members, p m.type := by
  have types : fields.map Field.type = members.map Member.type := by
    have seconds := congrArg (List.map Prod.snd) named
    rw [List.map_map, List.map_map] at seconds
    exact seconds
  have fields_iff : (∃ f ∈ fields, p f.type) ↔ ∃ t ∈ fields.map Field.type, p t := by simp
  have members_iff : (∃ m ∈ members, p m.type) ↔ ∃ t ∈ members.map Member.type, p t := by simp
  rw [fields_iff, types, members_iff]

/-! ## The one layout -/

/-- The places of the fields, for structs and for unions. -/
theorem eq_placeFrom_iff :
    fields = table.placeFrom isUnion 0 members ↔
      fields.map (fun f => (f.name, f.type)) = members.map (fun m => (m.name, m.type)) ∧
        (isUnion = true → ∀ f ∈ fields, f.offset = 0) ∧
        (isUnion = false → ∀ f ∈ fields.head?, f.offset = 0) ∧
        (isUnion = false → fields.IsChain fun f g => table.Follows (table.fieldEnd f) g) := by
  cases isUnion with
  | true => simp [eq_placeFrom_union_iff]
  | false => simp [eq_placeFrom_struct_iff, follows_zero_iff]

/-- The alignment of the whole is the largest there is among its fields, and at
least one. -/
theorem isGreatest_align_iff {align : Nat} (placed : fields = table.placeFrom isUnion 0 members) :
    IsGreatest ({1} ∪ {a | ∃ f ∈ fields, table.alignOf f.type = a}) align ↔
      align = table.alignment members := by
  have same : {a | ∃ f ∈ fields, table.alignOf f.type = a} =
      {a | ∃ m ∈ members, table.alignOf m.type = a} := by
    ext a
    exact exists_field_iff (p := fun t => table.alignOf t = a) (eq_placeFrom_iff.mp placed).1
  rw [same]
  constructor
  · intro h
    exact h.unique (isGreatest_alignment table members)
  · intro h
    rw [h]
    exact isGreatest_alignment table members

/-- The size of the whole is the least that has room for all fields and is
aligned. -/
theorem isLeast_size_iff {size align : Nat} (positive : 1 ≤ align) :
    IsLeast {x | align ∣ x ∧ ∀ f ∈ fields, table.fieldEnd f ≤ x} size ↔
      size = roundUp (table.extent fields) align := by
  have least := isLeast_roundUp (table.extent fields) align
  rw [Nat.max_eq_left positive] at least
  simp only [extent_le_iff] at least
  constructor
  · intro h
    exact h.unique least
  · intro h
    rw [h]
    exact least

/-- There is one layout of each list of members, and it is found by placing and
rounding. -/
theorem isCLayout_iff {size align : Nat} :
    table.IsCLayout isUnion members fields size align ↔
      fields = table.placeFrom isUnion 0 members ∧ align = table.alignment members ∧
        size = roundUp (table.extent fields) align := by
  have positive : align = table.alignment members → 1 ≤ align :=
    fun aligned => aligned ▸ alignment_pos table members
  constructor
  · intro h
    have placed := eq_placeFrom_iff.mpr ⟨h.named, h.union, h.first, h.next⟩
    have aligned := (isGreatest_align_iff placed).mp h.largest
    exact ⟨placed, aligned, (isLeast_size_iff (positive aligned)).mp h.padded⟩
  · rintro ⟨placed, aligned, padded⟩
    obtain ⟨named, union, first, next⟩ := eq_placeFrom_iff.mp placed
    exact ⟨named, union, first, next, (isGreatest_align_iff placed).mpr aligned,
      (isLeast_size_iff (positive aligned)).mpr padded⟩

/-- There is one layout that a C compiler makes, and it is the one that is made
here. -/
theorem layOut_eq_iff {name : String} {size align : Nat} :
    table.layOut name isUnion members = ⟨name, size, align, .record { fields, isUnion }⟩ ↔
      table.IsCLayout isUnion members fields size align := by
  rw [isCLayout_iff]
  unfold layOut
  simp only [TypeEntry.mk.injEq, Shape.record.injEq, Record.mk.injEq]
  constructor
  · rintro ⟨-, rfl, rfl, rfl, -⟩
    exact ⟨rfl, rfl, rfl⟩
  · rintro ⟨rfl, rfl, rfl⟩
    simp

/-! ## What follows from it -/

namespace IsCLayout

variable {size align : Nat}

/-- Fields of a struct lie one behind the other. -/
theorem pairwise (h : table.IsCLayout false members fields size align) :
    fields.Pairwise fun f g => table.fieldEnd f ≤ g.offset := by
  rw [(isCLayout_iff.mp h).1]
  exact pairwise_placeFrom table 0 members

/-- No field is aligned more strictly than the whole. -/
theorem alignAt_le (h : table.IsCLayout isUnion members fields size align) {f : Field}
    (hf : f ∈ fields) : table.alignAt f.type ≤ align :=
  Nat.max_le.mpr ⟨h.largest.2 (.inr ⟨f, hf, rfl⟩), h.largest.2 (.inl rfl)⟩

/-- Of powers of two the largest is a multiple of the others. -/
theorem alignAt_dvd_align (h : table.IsCLayout isUnion members fields size align)
    (powers : ∀ f ∈ fields, ∃ k, table.alignAt f.type = 2 ^ k) {f : Field} (hf : f ∈ fields) :
    table.alignAt f.type ∣ align := by
  have power : ∃ n, align = 2 ^ n := by
    rcases h.largest.1 with one | ⟨g, hg, own⟩
    · exact ⟨0, one⟩
    · obtain ⟨n, hn⟩ := powers g hg
      have below := h.alignAt_le hg
      have same : table.alignAt g.type = align := by
        unfold alignAt at below ⊢
        omega
      exact ⟨n, same ▸ hn⟩
  obtain ⟨n, rfl⟩ := power
  obtain ⟨k, hk⟩ := powers f hf
  have below := h.alignAt_le hf
  rw [hk] at below ⊢
  exact Nat.pow_dvd_pow 2 ((Nat.pow_le_pow_iff_right (by omega)).mp below)

/-- If alignments are powers of two, the fields of every element are aligned when
the array is. -/
theorem alignAt_dvd_element (h : table.IsCLayout isUnion members fields size align)
    (powers : ∀ f ∈ fields, ∃ k, table.alignAt f.type = 2 ^ k) {f : Field} (hf : f ∈ fields)
    {base : Nat} (aligned : align ∣ base) (i : Nat) :
    table.alignAt f.type ∣ base + i * size + f.offset := by
  have whole := h.alignAt_dvd_align powers hf
  have stride : table.alignAt f.type ∣ i * size :=
    Nat.dvd_mul_left_of_dvd (Nat.dvd_trans whole h.padded.1.1) i
  have offset : table.alignAt f.type ∣ f.offset := by
    rw [(isCLayout_iff.mp h).1] at hf
    exact alignAt_dvd_of_mem_placeFrom hf
  exact Nat.dvd_add (Nat.dvd_add (Nat.dvd_trans whole aligned) stride) offset

/-- An element is a number of sizes from the base, and a field its offset from
there. -/
theorem arrayAligned (h : table.IsCLayout isUnion members fields size align)
    (powers : ∀ f ∈ fields, ∃ k, table.alignAt f.type = 2 ^ k) (name : String) :
    table.ArrayAligned ⟨name, size, align, .record { fields, isUnion }⟩ := by
  intro program elem array base length entry shape place aligned i element fieldName field
    helement hfield
  obtain ⟨-, addr, hplace, found⟩ := (Program.result_index_of_array shape).mp helement
  obtain rfl : base = addr := Place.stored.inj (place.symm.trans hplace)
  obtain ⟨-, -, -, rfl⟩ := Program.elementAt_eq_ok_iff.mp found
  obtain ⟨f, start, hf, hstart, -, rfl⟩ := Program.field_eq_ok_iff.mp hfield
  obtain rfl := Place.stored.inj hstart
  obtain ⟨-, record, hrecord, hmem⟩ := mem_of_findField hf
  have stride : program.types.sizeOf elem = size := congrArg TypeEntry.size entry
  have same : Shape.record { fields, isUnion } = .record record :=
    (congrArg TypeEntry.shape entry).symm.trans hrecord
  cases same
  refine ⟨_, rfl, ?_⟩
  rw [stride]
  exact h.alignAt_dvd_element powers hmem aligned i

end IsCLayout

/-- **Structs and unions have the layout of C.** The members keep their order, names
and types. In a struct each is at the least multiple of its alignment from the end
of the one in front of it on, in a union at the start; the alignment is the largest
of one and theirs, and the size is the least multiple of it behind all of them. So
fields of a struct do not overlap. If alignments are powers of two, that of each
field divides size and alignment of the whole, and fields are aligned in each
element of an array. -/
theorem layOut_isCLayout (table : TypeTable) (name : String) (isUnion : Bool)
    (members : List Member) :
    ∃ fields size align,
      table.layOut name isUnion members = ⟨name, size, align, .record { fields, isUnion }⟩ ∧
      table.IsCLayout isUnion members fields size align ∧
      (isUnion = false → fields.Pairwise fun f g => table.fieldEnd f ≤ g.offset) ∧
      ((∀ f ∈ fields, ∃ k, table.alignAt f.type = 2 ^ k) →
        (∀ f ∈ fields, table.alignAt f.type ∣ align ∧ table.alignAt f.type ∣ size) ∧
          table.ArrayAligned (table.layOut name isUnion members)) := by
  have layout : table.IsCLayout isUnion members _ _ _ := isCLayout_iff.mpr ⟨rfl, rfl, rfl⟩
  refine ⟨_, _, _, layOut_eq_iff.mpr layout, layout, ?_, ?_⟩
  · rintro rfl
    exact layout.pairwise
  · intro powers
    refine ⟨fun f hf => ?_, layout.arrayAligned powers name⟩
    have whole := layout.alignAt_dvd_align powers hf
    exact ⟨whole, Nat.dvd_trans whole layout.padded.1.1⟩

/-! ### An array of slots -/

/-- A byte, a number of four bytes, a pointer. -/
def slotTable : TypeTable :=
  ⟨#[.unknown, primitiveEntry "uint8_t" 1 {}, primitiveEntry "int32_t" 4 { signed := true },
    pointerEntry 1]⟩

def slotMembers : List Member := [⟨"st", 1⟩, ⟨"n", 2⟩, ⟨"key", 3⟩, ⟨"tail", 1⟩]

def slotFields : List Field := [⟨"st", 0, 1⟩, ⟨"n", 4, 2⟩, ⟨"key", 8, 3⟩, ⟨"tail", 16, 1⟩]

/-- Nothing is mapped; the types are those of slots and of arrays of two. -/
def slotProgram : Program where
  types :=
    let types := slotTable.add (slotTable.layOut "Slot" false slotMembers)
    types.add (types.arrayEntry 4 2)
  memory := Snapshot.empty.memory

/-- The byte at the end is padded, so that the pointer in the second slot is aligned
as well. -/
theorem layOut_isCLayout_slot :
    slotTable.layOut "Slot" false slotMembers =
        ⟨"Slot", 24, 8, .record { fields := slotFields }⟩ ∧
      (slotProgram.index (.stored 0x1000 5) 1).result = .ok (.stored 0x1018 4) ∧
      slotProgram.field (.stored 0x1018 4) "key" = .ok (.stored 0x1020 3) ∧
      slotTable.alignAt 3 ∣ 0x1020 := by
  have known : slotTable.layOut "Slot" false slotMembers =
      ⟨"Slot", 24, 8, .record { fields := slotFields }⟩ := by decide
  have element : (slotProgram.index (.stored 0x1000 5) 1).result = .ok (.stored 0x1018 4) := rfl
  have field : slotProgram.field (.stored 0x1018 4) "key" = .ok (.stored 0x1020 3) := rfl
  obtain ⟨fields, size, align, laidOut, -, -, aligned⟩ :=
    layOut_isCLayout slotTable "Slot" false slotMembers
  obtain ⟨rfl, rfl, rfl⟩ : 24 = size ∧ 8 = align ∧ slotFields = fields := by
    simpa using known.symm.trans laidOut
  have powers : ∀ f ∈ slotFields, ∃ k, slotTable.alignAt f.type = 2 ^ k := by
    simp only [slotFields, List.forall_mem_cons]
    exact ⟨⟨0, rfl⟩, ⟨2, rfl⟩, ⟨3, rfl⟩, ⟨0, rfl⟩, by simp⟩
  have base : (slotTable.layOut "Slot" false slotMembers).align ∣ 0x1000 := by
    rw [known]
    decide
  obtain ⟨addr, place, multiple⟩ := (aligned powers).2 slotProgram 4 (.stored 0x1000 5) 0x1000 2
    rfl rfl rfl base 1 _ "key" _ element field
  obtain rfl : 0x1020 = addr := Place.stored.inj place
  exact ⟨known, element, field, multiple⟩

end HeapLens.TypeTable
