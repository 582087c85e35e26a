import HeapLens.Container.Cursor

/-!
# Cursors: what one call can do

A call of `next` on a walking cursor does one of three things: it gives a child, it
finds that nothing is left, or it meets a fault and leaves a note. There is one
lemma for each, with the events on the way, and for a dictionary one for the slot
that is passed over. The first call opens the container (`Opens`) and then does what
a call on the walking cursor would do:

> `next_fresh_of_opens`: the first call answers as a call on a cursor at the start
> would, after the events of the `opening`.

Which struct a container is opened as is said by `Program.Reaches`, without the
operation that opens it:

> `result_openContainer_eq_some_iff`: it opens as the struct that is reached, which is
> the value itself, or what a pointer leads to that is not null.

`Yields` says which children a cursor gives as long as nothing changes; `take` and
`drain` give these (`Yields.take_eq`).
-/

namespace HeapLens

/-! ## Opening a container -/

/-- The struct of a container, as it is reached from a value: the value itself, if
that is no pointer, and else what the pointer leads to, if it is not null. No second
pointer is followed. -/
inductive Program.Reaches (program : Program) (subject : Value) : (body : Value) → Prop where
  | itself (direct : program.isPointer subject = false) : Reaches program subject subject
  | target {type : TypeId} {reference : Bool} {addr : Nat}
      (pointer : program.shape subject = .pointer type reference)
      (read : (program.readPointer subject).result = .ok addr) (notNull : addr ≠ 0) :
      Reaches program subject (.stored addr type)

section OpenContainer

variable {program : Program} {subject body : Value} {fault : Fault}

/-- What is no pointer opens as itself, without a look at memory. -/
theorem openContainer_of_not_pointer (direct : program.isPointer subject = false) :
    program.openContainer subject = pure (some subject) := by
  unfold Program.openContainer
  rw [direct]
  rfl

/-- A pointer opens as what it leads to, or as nothing if it is null. Though it is
read twice, the second time when it is followed, only the first time can fail. -/
theorem result_openContainer_of_pointer {type : TypeId} {reference : Bool}
    (pointer : program.shape subject = .pointer type reference) :
    (program.openContainer subject).result = (program.readPointer subject).result.map fun addr =>
      if addr = 0 then none else some (.stored addr type) := by
  unfold Program.openContainer
  rw [if_pos (Program.isPointer_iff.mpr ⟨type, reference, pointer⟩)]
  cases read : (program.readPointer subject).result with
  | error fault =>
    rw [Look.result_bind_of_error read]
    rfl
  | ok addr =>
    rw [Look.result_bind_of_ok read]
    by_cases null : addr = 0
    · simp [Except.map, null]
    · have followed := Program.result_dereference_of_pointer pointer read null
      rw [if_neg null, ← bind_pure_comp, Look.result_bind_of_ok followed]
      simp [Except.map, null]

/-- A container opens as the struct that is reached. -/
theorem result_openContainer_eq_some_iff :
    (program.openContainer subject).result = .ok (some body) ↔ program.Reaches subject body := by
  constructor
  · intro h
    cases kind : program.isPointer subject with
    | false =>
      rw [openContainer_of_not_pointer kind] at h
      cases h
      exact .itself kind
    | true =>
      obtain ⟨type, reference, pointer⟩ := Program.isPointer_iff.mp kind
      rw [result_openContainer_of_pointer pointer] at h
      cases read : (program.readPointer subject).result with
      | error fault =>
        rw [read] at h
        cases h
      | ok addr =>
        by_cases null : addr = 0
        · simp [read, Except.map, null] at h
        · obtain rfl : .stored addr type = body := by simpa [read, Except.map, null] using h
          exact .target pointer read null
  · intro h
    cases h with
    | itself direct =>
      rw [openContainer_of_not_pointer direct]
      rfl
    | target pointer read notNull =>
      rw [result_openContainer_of_pointer pointer, read]
      simp [Except.map, notNull]

/-- Nothing is there behind a null pointer, and only there. -/
theorem result_openContainer_eq_none_iff :
    (program.openContainer subject).result = .ok none ↔
      program.isPointer subject = true ∧ (program.readPointer subject).result = .ok 0 := by
  cases kind : program.isPointer subject with
  | false =>
    rw [openContainer_of_not_pointer kind]
    simp
  | true =>
    obtain ⟨type, reference, pointer⟩ := Program.isPointer_iff.mp kind
    rw [result_openContainer_of_pointer pointer]
    cases (program.readPointer subject).result with
    | error fault => simp [Except.map]
    | ok addr => simp [Except.map]

/-- A container fails to open where the pointer to it fails to be read, and only
there. -/
theorem result_openContainer_eq_error_iff :
    (program.openContainer subject).result = .error fault ↔
      program.isPointer subject = true ∧ (program.readPointer subject).result = .error fault := by
  cases kind : program.isPointer subject with
  | false =>
    rw [openContainer_of_not_pointer kind]
    simp
  | true =>
    obtain ⟨type, reference, pointer⟩ := Program.isPointer_iff.mp kind
    rw [result_openContainer_of_pointer pointer]
    cases (program.readPointer subject).result with
    | error fault => simp [Except.map]
    | ok addr => simp [Except.map]

end OpenContainer

/-- The struct of a container is reached, its field `count` holds `number`, and its
field `buffer` is `data`, a pointer that is not null. -/
def Opens (program : Program) (subject : Value) (count buffer : RuntimeField) (data : Value)
    (number : Int) : Prop :=
  ∃ body addr, program.Reaches subject body ∧
    (program.readCount body count).result = .ok number ∧
    program.runtimeField body buffer = .ok data ∧
    (program.readPointer data).result = .ok addr ∧ addr ≠ 0

/-- A buffer is found exactly if the container opens. -/
theorem result_openBuffer_eq_some_iff {program : Program} {subject : Value}
    {count buffer : RuntimeField} {data : Value} {number : Int} :
    (program.openBuffer subject count buffer).result = .ok (some (data, number)) ↔
      Opens program subject count buffer data number := by
  constructor
  · intro h
    obtain ⟨opened, hopened, h⟩ := Look.exists_of_result_bind h
    cases opened with
    | none => cases h
    | some body =>
      obtain ⟨n, hn, h⟩ := Look.exists_of_result_bind h
      obtain ⟨d, hd, h⟩ := Look.exists_of_result_bind h
      obtain ⟨addr, haddr, h⟩ := Look.exists_of_result_bind h
      split at h
      · cases h
      · next hne =>
        cases h
        exact ⟨body, addr, result_openContainer_eq_some_iff.mp hopened, hn, hd, haddr, hne⟩
  · rintro ⟨body, addr, reached, hn, hd, haddr, hne⟩
    have hopened := result_openContainer_eq_some_iff.mpr reached
    have hdata : (liftM (program.runtimeField body buffer) : Look Value).result = .ok data := hd
    unfold Program.openBuffer
    -- Four looks in a row, each of which succeeds.
    rw [Look.result_bind_of_ok hopened]
    show (program.readCount body count >>= _).result = _
    rw [Look.result_bind_of_ok hn, Look.result_bind_of_ok hdata, Look.result_bind_of_ok haddr,
      if_neg hne]
    rfl

/-- If the container does not open, there is no buffer to walk over: either nothing
is there, or a fault was met. -/
theorem toOption_openBuffer_of_not_opens {program : Program} {subject : Value}
    {count buffer : RuntimeField}
    (h : ∀ data number, ¬ Opens program subject count buffer data number) :
    (program.openBuffer subject count buffer).result.toOption.getD none = none := by
  cases found : (program.openBuffer subject count buffer).result with
  | error fault => rfl
  | ok opened =>
    cases opened with
    | none => rfl
    | some pair => exact absurd (result_openBuffer_eq_some_iff.mp found) (h pair.1 pair.2)

/-- The look at a container that a walk begins with. A fault in it is left as a note
about `what`. -/
def opening (program : Program) (subject : Value) (count buffer : RuntimeField) (what : String) :
    Traced (Option (Value × Int)) :=
  (program.openBuffer subject count buffer).orNote what none

/-- The opening of a container that opens gives its buffer and its count. -/
theorem value_opening_of_opens {program : Program} {subject data : Value}
    {count buffer : RuntimeField} {number : Int}
    (h : Opens program subject count buffer data number) (what : String) :
    (opening program subject count buffer what).value = some (data, number) := by
  unfold opening
  rw [Look.value_orNote, result_openBuffer_eq_some_iff.mpr h]
  rfl

theorem value_opening_of_not_opens {program : Program} {subject : Value}
    {count buffer : RuntimeField}
    (h : ∀ data number, ¬ Opens program subject count buffer data number) (what : String) :
    (opening program subject count buffer what).value = none := by
  unfold opening
  rw [Look.value_orNote, toOption_openBuffer_of_not_opens h]

/-! ## One call on a list -/

namespace ListCursor

variable {program : Program} {settings : Settings} {data : Value} {index stop : Nat}

/-- An element that is found is the child, and the cursor stands behind it. -/
theorem advance_of_element {element : Value} (room : index < stop)
    (found : (program.index data index).result = .ok element) :
    advance program data index stop =
      ⟨(some ⟨s!"[{index}]", element⟩, walking data (index + 1) stop),
        (program.index data index).events⟩ := by
  unfold advance
  rw [if_pos room]
  apply Traced.ext <;> simp [found]

/-- A fault ends the walk, and is left as a note that names the element. -/
theorem advance_of_fault {fault : Fault} (room : index < stop)
    (found : (program.index data index).result = .error fault) :
    advance program data index stop =
      ⟨(none, finished), (program.index data index).events ++
        [.note (failureLine s!"List element [{index}]" fault)]⟩ := by
  unfold advance
  rw [if_pos room]
  apply Traced.ext <;> simp [found]

theorem advance_of_stop (full : stop ≤ index) :
    advance program data index stop = ⟨(none, finished), []⟩ := by
  unfold advance
  rw [if_neg (Nat.not_lt.mpr full)]
  rfl

/-- The first call, when the list opens: the opening, and a call on the cursor that
stands before the first element. -/
theorem next_fresh_of_opens {subject : Value} {length : Int}
    (h : Opens program subject .length .data data length) :
    next program settings (fresh subject) =
      ⟨(next program settings
          (walking data 0 (min length.toNat settings.maxListChildren))).value,
        (opening program subject .length .data "List children").events ++
          (next program settings
            (walking data 0 (min length.toNat settings.maxListChildren))).events⟩ := by
  show (opening program subject .length .data "List children" >>= _) = _
  apply Traced.ext
  · rw [Traced.value_bind, value_opening_of_opens h]
    rfl
  · rw [Traced.events_bind, value_opening_of_opens h]
    rfl

/-- The first call, when the list does not open: the opening is all that happens,
and the walk is over. -/
theorem next_fresh_of_not_opens {subject : Value}
    (h : ∀ data length, ¬ Opens program subject .length .data data length) :
    next program settings (fresh subject) =
      ⟨(none, finished), (opening program subject .length .data "List children").events⟩ := by
  show (opening program subject .length .data "List children" >>= _) = _
  apply Traced.ext
  · rw [Traced.value_bind, value_opening_of_not_opens h]
    rfl
  · rw [Traced.events_bind, value_opening_of_not_opens h]
    exact List.append_nil _

/-- The child of the first call is that of a cursor before the first element. -/
theorem value_next_fresh_of_opens {subject : Value} {length : Int}
    (h : Opens program subject .length .data data length) :
    (next program settings (fresh subject)).value =
      (next program settings
        (walking data 0 (min length.toNat settings.maxListChildren))).value := by
  rw [next_fresh_of_opens h]

theorem value_next_fresh_of_not_opens {subject : Value}
    (h : ∀ data length, ¬ Opens program subject .length .data data length) :
    (next program settings (fresh subject)).value = (none, finished) := by
  rw [next_fresh_of_not_opens h]

end ListCursor

/-! ## One call on a dictionary -/

namespace DictCursor

variable {program : Program} {settings : Settings} {slots : Value} {shown slot ahead : Nat}

/-- A vacant slot is looked at and passed over. -/
theorem advance_of_vacant (found : (readSlot program settings slots slot).result = .ok none) :
    advance program settings slots shown slot (ahead + 1) =
      ⟨(advance program settings slots shown (slot + 1) ahead).value,
        (readSlot program settings slots slot).events ++
          (advance program settings slots shown (slot + 1) ahead).events⟩ := by
  rw [advance]
  apply Traced.ext <;> simp [found]

/-- An entry gives its key. Its value is owed, and takes no further look. -/
theorem advance_of_entry {entry : Entry}
    (found : (readSlot program settings slots slot).result = .ok (some entry)) :
    advance program settings slots shown slot (ahead + 1) =
      ⟨(some ⟨s!"[{shown}].key", entry.key⟩,
        owing ⟨s!"[{shown}].value", entry.value⟩ slots (slot + 1) ahead (shown + 1)),
        (readSlot program settings slots slot).events⟩ := by
  rw [advance]
  apply Traced.ext <;> simp [found]

/-- A fault ends the walk, and is left as a note that names the slot. -/
theorem advance_of_fault {fault : Fault}
    (found : (readSlot program settings slots slot).result = .error fault) :
    advance program settings slots shown slot (ahead + 1) =
      ⟨(none, finished), (readSlot program settings slots slot).events ++
        [.note (failureLine s!"Dict slot {slot}" fault)]⟩ := by
  rw [advance]
  apply Traced.ext <;> simp [found]

/-- The first call, when the dictionary opens: the opening, and a call on the cursor
that stands before the first slot. -/
theorem next_fresh_of_opens {subject : Value} {capacity : Int}
    (h : Opens program subject .capacity .slots slots capacity) :
    next program settings (fresh subject) =
      ⟨(next program settings (walking slots 0 capacity.toNat 0)).value,
        (opening program subject .capacity .slots "Dict children").events ++
          (next program settings (walking slots 0 capacity.toNat 0)).events⟩ := by
  show (opening program subject .capacity .slots "Dict children" >>= _) = _
  apply Traced.ext
  · rw [Traced.value_bind, value_opening_of_opens h]
    rfl
  · rw [Traced.events_bind, value_opening_of_opens h]
    rfl

theorem next_fresh_of_not_opens {subject : Value}
    (h : ∀ slots capacity, ¬ Opens program subject .capacity .slots slots capacity) :
    next program settings (fresh subject) =
      ⟨(none, finished), (opening program subject .capacity .slots "Dict children").events⟩ := by
  show (opening program subject .capacity .slots "Dict children" >>= _) = _
  apply Traced.ext
  · rw [Traced.value_bind, value_opening_of_not_opens h]
    rfl
  · rw [Traced.events_bind, value_opening_of_not_opens h]
    exact List.append_nil _

/-- The child of the first call is that of a cursor before the first slot. -/
theorem value_next_fresh_of_opens {subject : Value} {capacity : Int}
    (h : Opens program subject .capacity .slots slots capacity) :
    (next program settings (fresh subject)).value =
      (next program settings (walking slots 0 capacity.toNat 0)).value := by
  rw [next_fresh_of_opens h]

theorem value_next_fresh_of_not_opens {subject : Value}
    (h : ∀ slots capacity, ¬ Opens program subject .capacity .slots slots capacity) :
    (next program settings (fresh subject)).value = (none, finished) := by
  rw [next_fresh_of_not_opens h]

end DictCursor

namespace Cursor

variable {program : Program} {settings : Settings}

/-- A cursor over a list does what the list's own cursor does. -/
theorem next_list (cursor : ListCursor) :
    next program settings (list cursor) =
      ⟨((cursor.next program settings).value.1, list (cursor.next program settings).value.2),
        (cursor.next program settings).events⟩ :=
  Traced.ext rfl (List.append_nil _)

theorem next_dict (cursor : DictCursor) :
    next program settings (dict cursor) =
      ⟨((cursor.next program settings).value.1, dict (cursor.next program settings).value.2),
        (cursor.next program settings).events⟩ :=
  Traced.ext rfl (List.append_nil _)

/-! ## What taking children does -/

/-- Taking children stops at the call that gives none. -/
theorem events_take_of_none {cursor after : Cursor}
    (answer : (cursor.next program settings).value = (none, after))
    (limit : Nat) :
    (take program settings (limit + 1) cursor).events = (cursor.next program settings).events := by
  rw [take, Traced.events_bind, answer]
  exact List.append_nil _

/-- A child that is given leaves one child less to take. -/
theorem events_take_of_some {cursor after : Cursor} {child : Child}
    (answer : (cursor.next program settings).value = (some child, after)) (limit : Nat) :
    (take program settings (limit + 1) cursor).events =
      (cursor.next program settings).events ++ (take program settings limit after).events := by
  rw [take, Traced.events_bind, answer]
  rfl

/-- A cursor that answers like another one, after some events of its own. -/
theorem events_take_of_next {cursor cursor' : Cursor} {events : List Event}
    (same : cursor.next program settings =
      ⟨(cursor'.next program settings).value, events ++ (cursor'.next program settings).events⟩)
    (limit : Nat) :
    (take program settings (limit + 1) cursor).events =
      events ++ (take program settings (limit + 1) cursor').events := by
  cases answer : (cursor'.next program settings).value with
  | mk child? after =>
    have answer' : (cursor.next program settings).value = (child?, after) := by rw [same, answer]
    cases child? with
    | none =>
      rw [events_take_of_none answer', events_take_of_none answer, same]
    | some child =>
      rw [events_take_of_some answer', events_take_of_some answer, same, List.append_assoc]

/-! ## What a cursor gives when nothing changes -/

/-- A cursor gives these children, one with each call, and then none. -/
inductive Yields (program : Program) (settings : Settings) : Cursor → List Child → Prop where
  | ended {cursor after : Cursor} (answer : (cursor.next program settings).value = (none, after)) :
      Yields program settings cursor []
  | child {cursor after : Cursor} {child : Child} {rest : List Child}
      (answer : (cursor.next program settings).value = (some child, after))
      (more : Yields program settings after rest) :
      Yields program settings cursor (child :: rest)

namespace Yields

/-- What a cursor gives depends on its next answer only. -/
theorem congr {cursor cursor' : Cursor} {children : List Child}
    (same : (cursor.next program settings).value = (cursor'.next program settings).value)
    (h : Yields program settings cursor' children) : Yields program settings cursor children := by
  cases h with
  | ended answer => exact .ended (same.trans answer)
  | child answer more => exact .child (same.trans answer) more

/-- Asked for a number of children, a cursor gives the first of them and no
others. -/
theorem take_eq {cursor : Cursor} {children : List Child}
    (h : Yields program settings cursor children) (limit : Nat) :
    (take program settings limit cursor).value = children.take limit := by
  induction h generalizing limit with
  | ended answer =>
    cases limit with
    | zero => rfl
    | succ limit =>
      rw [take, Traced.value_bind, answer]
      rfl
  | child answer more ih =>
    cases limit with
    | zero => rfl
    | succ limit =>
      rw [take, Traced.value_bind, answer, List.take_succ_cons, ← ih]
      rfl

/-- Draining gives them all, if they are no more than a program can count. -/
theorem drain_eq {cursor : Cursor} {children : List Child}
    (h : Yields program settings cursor children) (few : children.length ≤ addressLimit) :
    (drain program settings cursor).value = children := by
  rw [drain, h.take_eq, List.take_of_length_le few]

/-- A vacant slot adds nothing. -/
theorem vacant {slots : Value} {slot ahead shown : Nat} {rest : List Child}
    (found : (DictCursor.readSlot program settings slots slot).result = .ok none)
    (h : Yields program settings (.dict (.walking slots (slot + 1) ahead shown)) rest) :
    Yields program settings (.dict (.walking slots slot (ahead + 1) shown)) rest := by
  refine h.congr ?_
  rw [next_dict, next_dict, DictCursor.next, DictCursor.advance_of_vacant found]
  rfl

/-- An entry adds its key and, with the call after that, its value. -/
theorem entry {slots : Value} {slot ahead shown : Nat} {entry : Entry} {rest : List Child}
    (found : (DictCursor.readSlot program settings slots slot).result = .ok (some entry))
    (h : Yields program settings (.dict (.walking slots (slot + 1) ahead (shown + 1))) rest) :
    Yields program settings (.dict (.walking slots slot (ahead + 1) shown))
      (⟨s!"[{shown}].key", entry.key⟩ :: ⟨s!"[{shown}].value", entry.value⟩ :: rest) := by
  -- The value comes first, since the key leads to a cursor that owes it.
  have due : Yields program settings
      (.dict (.owing ⟨s!"[{shown}].value", entry.value⟩ slots (slot + 1) ahead (shown + 1)))
      (⟨s!"[{shown}].value", entry.value⟩ :: rest) := .child rfl h
  refine .child ?_ due
  rw [next_dict, DictCursor.next, DictCursor.advance_of_entry found]

/-- A slot that cannot be read is the end. -/
theorem broken {slots : Value} {slot ahead shown : Nat} {fault : Fault}
    (found : (DictCursor.readSlot program settings slots slot).result = .error fault) :
    Yields program settings (.dict (.walking slots slot (ahead + 1) shown)) [] := by
  have answer : (next program settings (.dict (.walking slots slot (ahead + 1) shown))).value =
      (none, .dict .finished) := by
    rw [next_dict, DictCursor.next, DictCursor.advance_of_fault found]
  exact .ended answer

end Yields

end Cursor

end HeapLens
