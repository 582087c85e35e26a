import HeapLens.Container.Cursor
import HeapLens.Value.Parts

/-!
# What is read of a value

Each look at a value makes certain reads, if it comes to a good end; if it ends in a
fault, it has made the first of these, and no others:

> `Look.ReadsUpTo`: these reads on success, a prefix of them in any case.

Looks in a row make their reads in a row (`ReadsUpTo.bind`), so that what a
container's operations read is put together from the reads of scalars. A scalar in
memory is read in one piece (`ownRead`). Going to a field reads nothing, and going
to an element reads the pointer to the buffer and not the element.
-/

namespace HeapLens

namespace Look

theorem reads_eq_filterMap (x : Look α) : x.reads = x.events.filterMap Event.read? := rfl

/-- Looks in a row make their reads in a row. -/
theorem reads_bind_of_ok {x : Look α} {a : α} (h : x.result = .ok a) (f : α → Look β) :
    (x >>= f).reads = x.reads ++ (f a).reads := by
  rw [reads_eq_filterMap, events_bind, h, List.filterMap_append]
  rfl

/-- Nothing is read behind a fault. -/
theorem reads_bind_of_error {x : Look α} {fault : Fault} (h : x.result = .error fault)
    (f : α → Look β) : (x >>= f).reads = x.reads := by
  rw [reads_eq_filterMap, events_bind, h, List.append_nil]
  rfl

/-- A look that makes the reads `all`, or the first of them and then ends in a
fault. -/
structure ReadsUpTo (x : Look α) (all : List (Nat × Nat)) : Prop where
  whole : ∀ a, x.result = .ok a → x.reads = all
  part : x.reads <+: all

namespace ReadsUpTo

theorem of_eq {x : Look α} {all : List (Nat × Nat)} (h : x.reads = all) : x.ReadsUpTo all :=
  ⟨fun _ _ => h, h ▸ List.prefix_refl _⟩

theorem pure (a : α) : (Pure.pure a : Look α).ReadsUpTo [] := of_eq rfl

theorem lift (x : Except Fault α) : (liftM x : Look α).ReadsUpTo [] := of_eq rfl

/-- A fault before anything was read. -/
theorem throw (fault : Fault) (all : List (Nat × Nat)) :
    (MonadExcept.throw fault : Look α).ReadsUpTo all :=
  ⟨fun _ h => (nomatch h), List.nil_prefix⟩

/-- The reads of two looks in a row. If the first ends in a fault, what was read is
a part of its reads, and if the second does, all of the first's and a part of its
own. -/
theorem bind {x : Look α} {f : α → Look β} {first rest : List (Nat × Nat)}
    (h : x.ReadsUpTo first) (hrest : ∀ a, x.result = .ok a → (f a).ReadsUpTo rest) :
    (x >>= f).ReadsUpTo (first ++ rest) := by
  cases found : x.result with
  | ok a =>
    have reads : (x >>= f).reads = first ++ (f a).reads := by
      rw [reads_bind_of_ok found, h.whole a found]
    refine ⟨?_, ?_⟩
    · intro b hb
      rw [result_bind_of_ok found] at hb
      rw [reads, (hrest a found).whole b hb]
    · rw [reads]
      exact (List.prefix_append_right_inj first).mpr (hrest a found).part
  | error fault =>
    refine ⟨?_, ?_⟩
    · intro b hb
      rw [result_bind_of_error found] at hb
      cases hb
    · rw [reads_bind_of_error found]
      exact h.part.trans (List.prefix_append first rest)

/-- What follows reads nothing. -/
theorem bind_still {x : Look α} {f : α → Look β} {all : List (Nat × Nat)} (h : x.ReadsUpTo all)
    (hrest : ∀ a, (f a).ReadsUpTo []) : (x >>= f).ReadsUpTo all := by
  have both := h.bind fun a _ => hrest a
  rwa [List.append_nil] at both

theorem map {x : Look α} {all : List (Nat × Nat)} (h : x.ReadsUpTo all) (f : α → β) :
    (f <$> x).ReadsUpTo all := by
  rw [← bind_pure_comp]
  exact h.bind_still fun a => pure (f a)

end ReadsUpTo

end Look

open Look (ReadsUpTo)

namespace Program

/-! ## Scalars -/

/-- To read a value is to read its bytes; one that is not in memory needs no
read. -/
def ownRead (program : Program) (v : Value) : List (Nat × Nat) :=
  match v.place with
  | .stored addr => [(addr, program.types.sizeOf v.type)]
  | .held _ => []

/-- To read a field of a container's struct, if it has that field. -/
def fieldRead (program : Program) (v : Value) (f : RuntimeField) : List (Nat × Nat) :=
  match program.runtimeField v f with
  | .ok w => program.ownRead w
  | .error _ => []

variable {program : Program} {v w data : Value} {f : RuntimeField}

/-- A field is in memory, so that it takes one read. -/
theorem ownRead_of_runtimeField (h : program.runtimeField v f = .ok w) :
    ∃ addr, program.ownRead w = [(addr, program.types.sizeOf w.type)] := by
  obtain ⟨field, addr, -, -, -, rfl⟩ := field_eq_ok_iff.mp h
  exact ⟨addr + field.offset, rfl⟩

/-- A scalar in memory takes one read of its size, and no read if no number is of
that size. -/
theorem readsUpTo_readScalar (program : Program) (v : Value) :
    (program.readScalar v (program.types.sizeOf v.type)).ReadsUpTo (program.ownRead v) := by
  obtain ⟨place, t⟩ := v
  cases place with
  | held bits => exact .pure _
  | stored addr =>
    show (program.memory.readUInt addr (program.types.sizeOf t)).ReadsUpTo
      [(addr, program.types.sizeOf t)]
    unfold Memory.readUInt
    split
    · have one : (program.memory.readBytes addr (program.types.sizeOf t)).ReadsUpTo
          [(addr, program.types.sizeOf t)] := .of_eq rfl
      exact one.map LittleEndian.ofBytes
    · exact .throw _ _

/-- An address is read as one scalar. -/
theorem readsUpTo_readPointer (program : Program) (v : Value) :
    (program.readPointer v).ReadsUpTo (program.ownRead v) := by
  unfold readPointer
  dsimp only
  split
  · exact readsUpTo_readScalar program v
  · split
    · exact readsUpTo_readScalar program v
    · exact .throw _ _
  · exact .throw _ _

theorem readsUpTo_readInt (program : Program) (v : Value) :
    (program.readInt v).ReadsUpTo (program.ownRead v) := by
  unfold readInt
  dsimp only
  split
  · split
    · exact .throw _ _
    · exact (readsUpTo_readScalar program v).bind_still fun x => .pure _
  · exact (readsUpTo_readScalar program v).bind_still fun x => .pure _
  · exact .throw _ _

/-- To find the field takes no read. -/
theorem readsUpTo_readCount (program : Program) (v : Value) (f : RuntimeField) :
    (program.readCount v f).ReadsUpTo (program.fieldRead v f) := by
  unfold readCount fieldRead
  cases program.runtimeField v f with
  | ok w => exact (readsUpTo_readInt program w)
  | error fault => exact .of_eq rfl

/-! ## Steps -/

/-- The pointer is read, and not what it leads to. -/
theorem readsUpTo_dereference (program : Program) (v : Value) :
    (program.dereference v).ReadsUpTo (program.ownRead v) := by
  unfold dereference
  split
  · refine (readsUpTo_readPointer program v).bind_still ?_
    intro addr
    split
    · exact .throw _ _
    · exact .pure _
  · exact .throw _ _

/-- An element of a buffer takes one read of the pointer to it, and none of the
element. -/
theorem readsUpTo_index {base : Nat} (read : (program.readPointer data).result = .ok base)
    (i : Nat) : (program.index data i).ReadsUpTo (program.ownRead data) := by
  unfold index
  cases shape : program.shape data with
  | pointer target reference =>
    exact (readsUpTo_readPointer program data).bind_still fun base => .lift _
  | array elem length => exact absurd shape (shape_ne_array_of_readPointer read elem length)
  | unknown | primitive traits | record record | typedef target => exact .throw _ _

/-! ## Containers -/

/-- The reads of a pointer to a container: one to see whether it is null, and one
more to follow it if it is not. -/
def pointerReads (program : Program) (subject : Value) : List (Nat × Nat) :=
  if program.isPointer subject then
    match (program.readPointer subject).result with
    | .ok (_ + 1) => program.ownRead subject ++ program.ownRead subject
    | _ => program.ownRead subject
  else []

/-- The reads of opening a container: the pointer to it, and, unless that is null,
the count and then the pointer to the buffer. -/
def openingReads (program : Program) (subject : Value) (count buffer : RuntimeField) :
    List (Nat × Nat) :=
  program.pointerReads subject ++
    match (program.openContainer subject).result with
    | .ok (some body) => program.fieldRead body count ++ program.fieldRead body buffer
    | _ => []

/-- A pointer that is not null is read a second time, when it is followed. -/
theorem readsUpTo_openContainer (program : Program) (subject : Value) :
    (program.openContainer subject).ReadsUpTo (program.pointerReads subject) := by
  have own := readsUpTo_readPointer program subject
  unfold openContainer pointerReads
  split
  · cases read : (program.readPointer subject).result with
    | error fault =>
      refine ⟨?_, ?_⟩
      · intro opened h
        rw [Look.result_bind_of_error read] at h
        cases h
      · rw [Look.reads_bind_of_error read]
        exact own.part
    | ok addr =>
      cases addr with
      | zero =>
        refine .of_eq ?_
        rw [Look.reads_bind_of_ok read, own.whole 0 read]
        exact List.append_nil _
      | succ addr =>
        refine own.bind fun found hfound => ?_
        rw [read] at hfound
        cases hfound
        rw [if_neg (Nat.succ_ne_zero addr)]
        exact (readsUpTo_dereference program subject).map some
  · exact .pure _

/-- The pointer, the count and the buffer's address are read in this order. -/
theorem readsUpTo_openBuffer (program : Program) (subject : Value) (count buffer : RuntimeField) :
    (program.openBuffer subject count buffer).ReadsUpTo
      (program.openingReads subject count buffer) := by
  refine (readsUpTo_openContainer program subject).bind ?_
  intro opened hopened
  rw [hopened]
  cases opened with
  | none => exact .pure _
  | some body =>
    refine (readsUpTo_readCount program body count).bind fun number _ => ?_
    unfold fieldRead
    cases program.runtimeField body buffer with
    | error fault => exact .of_eq rfl
    | ok data =>
      show (program.readPointer data >>= _).ReadsUpTo (program.ownRead data)
      refine (readsUpTo_readPointer program data).bind_still fun addr => ?_
      split
      · exact .pure _
      · exact .pure _

end Program

/-- The reads of a visit to a slot: the pointer to the slots, and then the slot's
status. -/
def DictCursor.visitReads (program : Program) (slots : Value) (slot : Nat) : List (Nat × Nat) :=
  program.ownRead slots ++
    match (program.index slots slot).result with
    | .ok here => program.fieldRead here .status
    | .error _ => []

/-- Key and value of an entry are found without a read. -/
theorem DictCursor.readsUpTo_readSlot {program : Program} {slots : Value} {base : Nat}
    (read : (program.readPointer slots).result = .ok base) (settings : Settings) (slot : Nat) :
    (readSlot program settings slots slot).ReadsUpTo (visitReads program slots slot) := by
  refine (Program.readsUpTo_index read slot).bind ?_
  intro here hhere
  rw [hhere]
  refine (Program.readsUpTo_readCount program here .status).bind_still fun status => ?_
  split
  · have key : (liftM (program.runtimeField here .key) : Look Value).ReadsUpTo [] := .lift _
    have value : (liftM (program.runtimeField here .value) : Look Value).ReadsUpTo [] := .lift _
    exact key.bind_still fun k => value.bind_still fun v => .pure _
  · exact .pure _

end HeapLens
