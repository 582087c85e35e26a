import HeapLens.Proofs.Alike
import HeapLens.Proofs.CursorCalls
import HeapLens.Proofs.DictAdvance

/-!
# How a cursor comes to its end

A call that gives no child has a cause. Either an operation on the program failed,
or there was nothing to give: the container or its buffer is null, the count is used
up, the limit is reached. `Ends` tells these apart for a cursor in any state, in
terms of the operations that a call performs (`OpenFails`, `SlotFails`), and carries
the failure if there was one. What is left for the log is settled by it:

> `Cursor.Ends.next`: a call that ends leaves a line for the failure that ended it,
> and otherwise none.
> `Cursor.ends_or_gives`: a call that does not end gives a child and leaves no line.

`Cursor.exists_life` puts this along the calls of a cursor's whole life, whatever
programs they find.
-/

namespace HeapLens

open Look (Quiet)

/-! ## Looks that leave no note -/

namespace Look

theorem quiet_lift (x : Except Fault α) : (liftM x : Look α).Quiet := rfl

theorem Quiet.filterMap_events {x : Look α} (h : x.Quiet) :
    x.events.filterMap Event.line? = [] := h

end Look

namespace Program

/-- What is no number is a fault and not a note. -/
theorem quiet_readInt (program : Program) (v : Value) : (program.readInt v).Quiet := by
  unfold readInt
  dsimp only
  split
  · split
    · rfl
    · exact (program.quiet_readScalar v _).bind fun x => rfl
  · exact (program.quiet_readScalar v _).bind fun x => rfl
  · rfl

theorem quiet_readCount (program : Program) (v : Value) (f : RuntimeField) :
    (program.readCount v f).Quiet :=
  (Look.quiet_lift (program.runtimeField v f)).bind fun count => program.quiet_readInt count

theorem quiet_index (program : Program) (v : Value) (i : Nat) : (program.index v i).Quiet := by
  unfold index
  cases program.shape v with
  | pointer target reference => exact (program.quiet_readPointer v).bind fun base => rfl
  | array elem length =>
    dsimp only
    split
    · rfl
    · exact (Look.quiet_lift (program.addressOf v .element)).bind fun base => rfl
  | unknown | primitive traits | record record | typedef target => rfl

/-- All that is done before a walk is one of the looks above. -/
theorem quiet_openBuffer (program : Program) (subject : Value) (count buffer : RuntimeField) :
    (program.openBuffer subject count buffer).Quiet := by
  refine (program.quiet_openContainer subject).bind fun opened => ?_
  cases opened with
  | none => rfl
  | some body =>
    refine (program.quiet_readCount body count).bind fun number => ?_
    refine (Look.quiet_lift (program.runtimeField body buffer)).bind fun data => ?_
    refine (program.quiet_readPointer data).bind fun addr => ?_
    split <;> rfl

end Program

theorem DictCursor.quiet_readSlot (program : Program) (settings : Settings) (slots : Value)
    (slot : Nat) : (readSlot program settings slots slot).Quiet := by
  refine (program.quiet_index slots slot).bind fun here => ?_
  refine (program.quiet_readCount here .status).bind fun status => ?_
  split
  · refine (Look.quiet_lift (program.runtimeField here .key)).bind fun key => ?_
    exact (Look.quiet_lift (program.runtimeField here .value)).bind fun value => rfl
  · rfl

namespace Look.Quiet

theorem notes_orNote_of_ok {x : Look α} {a : α} (h : x.Quiet) (found : x.result = .ok a)
    (what : String) (fallback : α) : (x.orNote what fallback).notes = [] := by
  unfold Traced.notes
  rw [events_orNote, List.filterMap_append, h.filterMap_events, found]
  rfl

/-- A look that leaves no note of its own leaves one for its fault. -/
theorem notes_orNote_of_error {x : Look α} {fault : Fault} (h : x.Quiet)
    (found : x.result = .error fault) (what : String) (fallback : α) :
    (x.orNote what fallback).notes = [failureLine what fault] := by
  unfold Traced.notes
  rw [events_orNote, List.filterMap_append, h.filterMap_events, found]
  rfl

end Look.Quiet

/-! ## Operations that fail -/

/-- The container is a null pointer, or the pointer to its buffer is null. -/
inductive OpensNull (program : Program) (subject : Value) (count buffer : RuntimeField) : Prop where
  | container (pointer : program.isPointer subject = true)
      (null : (program.readPointer subject).result = .ok 0)
  | buffer {body data : Value} {number : Int}
      (reached : program.Reaches subject body)
      (counted : (program.readCount body count).result = .ok number)
      (found : program.runtimeField body buffer = .ok data)
      (null : (program.readPointer data).result = .ok 0)

/-- An operation fails on the way to a container's buffer: the pointer to the
container cannot be read, there is no count or it cannot be read, there is no
buffer, or the pointer to it cannot be read. -/
inductive OpenFails (program : Program) (subject : Value) (count buffer : RuntimeField)
    (fault : Fault) : Prop where
  | container (pointer : program.isPointer subject = true)
      (failed : (program.readPointer subject).result = .error fault)
  | count {body : Value} (reached : program.Reaches subject body)
      (failed : (program.readCount body count).result = .error fault)
  | buffer {body : Value} {number : Int}
      (reached : program.Reaches subject body)
      (counted : (program.readCount body count).result = .ok number)
      (failed : program.runtimeField body buffer = .error fault)
  | data {body data : Value} {number : Int}
      (reached : program.Reaches subject body)
      (counted : (program.readCount body count).result = .ok number)
      (found : program.runtimeField body buffer = .ok data)
      (failed : (program.readPointer data).result = .error fault)

section Opening

variable {program : Program} {subject : Value} {count buffer : RuntimeField} {fault : Fault}

/-- Behind a container that is there come three more operations. -/
theorem result_openBuffer_of_reaches {body : Value} (reached : program.Reaches subject body) :
    (program.openBuffer subject count buffer).result =
      (program.readCount body count).result >>= fun number =>
        program.runtimeField body buffer >>= fun data =>
          (program.readPointer data).result >>= fun addr =>
            if addr = 0 then .ok none else .ok (some (data, number)) := by
  unfold Program.openBuffer
  rw [Look.result_bind_of_ok (result_openContainer_eq_some_iff.mpr reached)]
  simp only [Look.result_bind, Look.result_lift, apply_ite Look.result, Look.result_pure]

/-- There is nothing to walk over exactly if a pointer on the way is null. -/
theorem result_openBuffer_eq_none_iff :
    (program.openBuffer subject count buffer).result = .ok none ↔
      OpensNull program subject count buffer := by
  constructor
  · intro h
    obtain ⟨opened, hopened, h⟩ := Look.exists_of_result_bind h
    cases opened with
    | none =>
      obtain ⟨pointer, null⟩ := result_openContainer_eq_none_iff.mp hopened
      exact .container pointer null
    | some body =>
      have reached := result_openContainer_eq_some_iff.mp hopened
      obtain ⟨number, hnumber, h⟩ := Look.exists_of_result_bind h
      obtain ⟨data, hdata, h⟩ := Look.exists_of_result_bind h
      obtain ⟨addr, haddr, h⟩ := Look.exists_of_result_bind h
      split at h
      · next null => exact .buffer reached hnumber hdata (null ▸ haddr)
      · cases h
  · intro h
    cases h with
    | container pointer null =>
      unfold Program.openBuffer
      rw [Look.result_bind_of_ok (result_openContainer_eq_none_iff.mpr ⟨pointer, null⟩)]
      rfl
    | buffer reached counted found null =>
      rw [result_openBuffer_of_reaches reached, counted, found]
      show ((program.readPointer _).result >>= _) = _
      rw [null]
      rfl

/-- The fault of opening is that of the first operation on the way that fails. -/
theorem result_openBuffer_eq_error_iff :
    (program.openBuffer subject count buffer).result = .error fault ↔
      OpenFails program subject count buffer fault := by
  constructor
  · intro h
    rcases Look.result_bind_eq_error_iff.mp h with failed | ⟨opened, hopened, h⟩
    · obtain ⟨pointer, failed⟩ := result_openContainer_eq_error_iff.mp failed
      exact .container pointer failed
    cases opened with
    | none => cases h
    | some body =>
      have reached := result_openContainer_eq_some_iff.mp hopened
      rcases Look.result_bind_eq_error_iff.mp h with failed | ⟨number, hnumber, h⟩
      · exact .count reached failed
      rcases Look.result_bind_eq_error_iff.mp h with failed | ⟨data, hdata, h⟩
      · exact .buffer reached hnumber failed
      rcases Look.result_bind_eq_error_iff.mp h with failed | ⟨addr, -, h⟩
      · exact .data reached hnumber hdata failed
      split at h <;> cases h
  · intro h
    cases h with
    | container pointer failed =>
      exact Look.result_bind_of_error (result_openContainer_eq_error_iff.mpr ⟨pointer, failed⟩) _
    | count reached failed =>
      rw [result_openBuffer_of_reaches reached, failed]
      rfl
    | buffer reached counted failed =>
      rw [result_openBuffer_of_reaches reached, counted, failed]
      rfl
    | data reached counted found failed =>
      rw [result_openBuffer_of_reaches reached, counted, found]
      show ((program.readPointer _).result >>= _) = _
      rw [failed]
      rfl

end Opening

namespace DictCursor

/-- An operation fails on the way to a slot's entry: the slot cannot be reached, it
has no status or that cannot be read, or the slot is occupied and has no key or no
value. -/
inductive SlotFails (program : Program) (settings : Settings) (slots : Value) (slot : Nat)
    (fault : Fault) : Prop where
  | slot (failed : (program.index slots slot).result = .error fault)
  | status {here : Value} (reached : (program.index slots slot).result = .ok here)
      (failed : (program.readCount here .status).result = .error fault)
  | key {here : Value} (reached : (program.index slots slot).result = .ok here)
      (occupied : (program.readCount here .status).result = .ok settings.occupiedStatus)
      (failed : program.runtimeField here .key = .error fault)
  | value {here key : Value} (reached : (program.index slots slot).result = .ok here)
      (occupied : (program.readCount here .status).result = .ok settings.occupiedStatus)
      (found : program.runtimeField here .key = .ok key)
      (failed : program.runtimeField here .value = .error fault)

variable {program : Program} {settings : Settings} {slots : Value} {slot : Nat} {fault : Fault}

/-- In a slot that is occupied, key and value are gone to one after the other. -/
theorem result_readSlot_of_occupied {here : Value}
    (reached : (program.index slots slot).result = .ok here)
    (occupied : (program.readCount here .status).result = .ok settings.occupiedStatus) :
    (readSlot program settings slots slot).result =
      program.runtimeField here .key >>= fun key =>
        program.runtimeField here .value >>= fun value => .ok (some ⟨key, value⟩) := by
  unfold readSlot
  rw [Look.result_bind_of_ok reached, Look.result_bind_of_ok occupied, if_pos rfl]
  simp only [Look.result_bind, Look.result_lift, Look.result_pure]

/-- The fault of a slot is that of the first operation on the way that fails. -/
theorem result_readSlot_eq_error_iff :
    (readSlot program settings slots slot).result = .error fault ↔
      SlotFails program settings slots slot fault := by
  constructor
  · intro h
    rcases Look.result_bind_eq_error_iff.mp h with failed | ⟨here, reached, h⟩
    · exact .slot failed
    rcases Look.result_bind_eq_error_iff.mp h with failed | ⟨status, hstatus, h⟩
    · exact .status reached failed
    split at h
    · next occupied =>
      rw [occupied] at hstatus
      rcases Look.result_bind_eq_error_iff.mp h with failed | ⟨key, hkey, h⟩
      · exact .key reached hstatus failed
      rcases Look.result_bind_eq_error_iff.mp h with failed | ⟨value, -, h⟩
      · exact .value reached hstatus hkey failed
      · cases h
    · cases h
  · intro h
    cases h with
    | slot failed => exact Look.result_bind_of_error failed _
    | status reached failed =>
      unfold readSlot
      rw [Look.result_bind_of_ok reached]
      exact Look.result_bind_of_error failed _
    | key reached occupied failed =>
      rw [result_readSlot_of_occupied reached occupied, failed]
      rfl
    | value reached occupied found failed =>
      rw [result_readSlot_of_occupied reached occupied, found]
      show (program.runtimeField _ .value >>= _) = _
      rw [failed]
      rfl

end DictCursor

/-! ## The end of a walk -/

/-- Something that failed, under the name by which the log calls it. -/
structure Failure where
  what : String
  fault : Fault
  deriving DecidableEq, Repr

/-- The line for the failure that ended a walk, if it was ended by one. -/
def Failure.lines (failure? : Option Failure) : List String :=
  failure?.toList.map fun failure => failureLine failure.what failure.fault

theorem Failure.length_lines_le (failure? : Option Failure) : (lines failure?).length ≤ 1 := by
  cases failure? <;> exact Nat.le_of_ble_eq_true rfl

/-- How a call on a list comes to give no child, and the failure that it met, if
any. -/
inductive ListCursor.Ends (program : Program) (settings : Settings) :
    ListCursor → Option Failure → Prop where
  | null {subject : Value} (null : OpensNull program subject .length .data) :
      Ends program settings (fresh subject) none
  | unopened {subject : Value} {fault : Fault}
      (failed : OpenFails program subject .length .data fault) :
      Ends program settings (fresh subject) (some ⟨"List children", fault⟩)
  /-- The list opens, and then the first call ends like one at the start of its
  elements. -/
  | opened {subject data : Value} {length : Int} {failure? : Option Failure}
      (opens : Opens program subject .length .data data length)
      (ends : Ends program settings (walking data 0 (min length.toNat settings.maxListChildren))
        failure?) : Ends program settings (fresh subject) failure?
  /-- The count is used up, or the limit reached. -/
  | stop {data : Value} {index stop : Nat} (full : stop ≤ index) :
      Ends program settings (walking data index stop) none
  | element {data : Value} {index stop : Nat} {fault : Fault} (room : index < stop)
      (failed : (program.index data index).result = .error fault) :
      Ends program settings (walking data index stop) (some ⟨s!"List element [{index}]", fault⟩)
  | finished : Ends program settings finished none

/-- How a call on a dictionary comes to give no child, and the failure that it met,
if any. A value that is due is always given. -/
inductive DictCursor.Ends (program : Program) (settings : Settings) :
    DictCursor → Option Failure → Prop where
  | null {subject : Value} (null : OpensNull program subject .capacity .slots) :
      Ends program settings (fresh subject) none
  | unopened {subject : Value} {fault : Fault}
      (failed : OpenFails program subject .capacity .slots fault) :
      Ends program settings (fresh subject) (some ⟨"Dict children", fault⟩)
  /-- The dictionary opens, and then the first call ends like one at the start of
  its slots. -/
  | opened {subject slots : Value} {capacity : Int} {failure? : Option Failure}
      (opens : Opens program subject .capacity .slots slots capacity)
      (ends : Ends program settings (walking slots 0 capacity.toNat 0) failure?) :
      Ends program settings (fresh subject) failure?
  /-- All slots that are left are vacant. -/
  | exhausted {slots : Value} {slot ahead shown : Nat}
      (vacant : Vacant program settings slots slot ahead) :
      Ends program settings (walking slots slot ahead shown) none
  | slot {slots : Value} {slot passed ahead shown : Nat} {fault : Fault} (room : passed < ahead)
      (vacant : Vacant program settings slots slot passed)
      (failed : SlotFails program settings slots (slot + passed) fault) :
      Ends program settings (walking slots slot ahead shown)
        (some ⟨s!"Dict slot {slot + passed}", fault⟩)
  | finished : Ends program settings finished none

/-- How a call on a cursor comes to give no child, and the failure that it met, if
any. -/
inductive Cursor.Ends (program : Program) (settings : Settings) :
    Cursor → Option Failure → Prop where
  | list {cursor : ListCursor} {failure? : Option Failure}
      (ends : cursor.Ends program settings failure?) : Ends program settings (list cursor) failure?
  | dict {cursor : DictCursor} {failure? : Option Failure}
      (ends : cursor.Ends program settings failure?) : Ends program settings (dict cursor) failure?
  | nothing : Ends program settings nothing none

/-! ## One call -/

/-- A call gives a child and leaves nothing for the log. -/
def GivesChild (answer : Traced (Option Child × σ)) : Prop :=
  ∃ child after, answer.value = (some child, after) ∧ answer.notes = []

section Opening

variable {program : Program} {subject : Value} {count buffer : RuntimeField}

/-- An opening that finds a buffer leaves no note. -/
theorem notes_opening_of_opens {data : Value} {number : Int}
    (h : Opens program subject count buffer data number) (what : String) :
    (opening program subject count buffer what).notes = [] :=
  (program.quiet_openBuffer subject count buffer).notes_orNote_of_ok
    (result_openBuffer_eq_some_iff.mpr h) what none

theorem notes_opening_of_null (h : OpensNull program subject count buffer) (what : String) :
    (opening program subject count buffer what).notes = [] :=
  (program.quiet_openBuffer subject count buffer).notes_orNote_of_ok
    (result_openBuffer_eq_none_iff.mpr h) what none

/-- An opening that fails leaves the line for its fault. -/
theorem notes_opening_of_fails {fault : Fault} (h : OpenFails program subject count buffer fault)
    (what : String) :
    (opening program subject count buffer what).notes = [failureLine what fault] :=
  (program.quiet_openBuffer subject count buffer).notes_orNote_of_error
    (result_openBuffer_eq_error_iff.mpr h) what none

theorem OpensNull.not_opens (h : OpensNull program subject count buffer) (data : Value)
    (number : Int) : ¬ Opens program subject count buffer data number := by
  intro opens
  have found := result_openBuffer_eq_none_iff.mpr h
  rw [result_openBuffer_eq_some_iff.mpr opens] at found
  cases found

theorem OpenFails.not_opens {fault : Fault} (h : OpenFails program subject count buffer fault)
    (data : Value) (number : Int) : ¬ Opens program subject count buffer data number := by
  intro opens
  have found := result_openBuffer_eq_error_iff.mpr h
  rw [result_openBuffer_eq_some_iff.mpr opens] at found
  cases found

/-- A container opens, or there is nothing to open, or an operation fails. -/
theorem opens_or_null_or_fails (program : Program) (subject : Value) (count buffer : RuntimeField) :
    (∃ data number, Opens program subject count buffer data number) ∨
      OpensNull program subject count buffer ∨
      ∃ fault, OpenFails program subject count buffer fault := by
  cases found : (program.openBuffer subject count buffer).result with
  | error fault => exact .inr (.inr ⟨fault, result_openBuffer_eq_error_iff.mp found⟩)
  | ok opened =>
    cases opened with
    | none => exact .inr (.inl (result_openBuffer_eq_none_iff.mp found))
    | some pair => exact .inl ⟨pair.1, pair.2, result_openBuffer_eq_some_iff.mp found⟩

end Opening

namespace ListCursor

variable {program : Program} {settings : Settings} {cursor : ListCursor}

/-- The opening adds no note to those of the first call. -/
theorem notes_next_fresh_of_opens {subject data : Value} {length : Int}
    (h : Opens program subject .length .data data length) :
    (next program settings (fresh subject)).notes =
      (next program settings
        (walking data 0 (min length.toNat settings.maxListChildren))).notes := by
  have still := notes_opening_of_opens h "List children"
  unfold Traced.notes at still ⊢
  rw [next_fresh_of_opens h, List.filterMap_append, still, List.nil_append]

/-- By induction on the way the end came about: a container that opens leads to a
cursor that walks. -/
theorem Ends.next {failure? : Option Failure} (h : Ends program settings cursor failure?) :
    (next program settings cursor).value = (none, .finished) ∧
      (next program settings cursor).notes = Failure.lines failure? := by
  induction h with
  | null null =>
    rw [next_fresh_of_not_opens null.not_opens]
    exact ⟨rfl, notes_opening_of_null null _⟩
  | unopened failed =>
    rw [next_fresh_of_not_opens failed.not_opens]
    exact ⟨rfl, notes_opening_of_fails failed _⟩
  | opened opens _ ih =>
    rw [value_next_fresh_of_opens opens, notes_next_fresh_of_opens opens]
    exact ih
  | stop full =>
    rw [ListCursor.next, advance_of_stop full]
    exact ⟨rfl, rfl⟩
  | @element data index stop fault room failed =>
    unfold Traced.notes
    rw [ListCursor.next, advance_of_fault room failed, List.filterMap_append,
      (program.quiet_index data index).filterMap_events]
    exact ⟨rfl, rfl⟩
  | finished => exact ⟨rfl, rfl⟩

/-- The cases of a list's walk: an element is there, or it is not, or there is no
room for one. -/
theorem walking_ends_or_gives (program : Program) (settings : Settings) (data : Value)
    (index stop : Nat) :
    (∃ failure?, Ends program settings (walking data index stop) failure?) ∨
      GivesChild (next program settings (walking data index stop)) := by
  rcases Nat.lt_or_ge index stop with room | full
  · cases found : (program.index data index).result with
    | error fault => exact .inl ⟨_, .element room found⟩
    | ok element =>
      right
      rw [ListCursor.next, advance_of_element room found]
      exact ⟨_, _, rfl, (program.quiet_index data index).filterMap_events⟩
  · exact .inl ⟨none, .stop full⟩

/-- Only a call that ends leaves something for the log. -/
theorem ends_or_gives (program : Program) (settings : Settings) (cursor : ListCursor) :
    (∃ failure?, Ends program settings cursor failure?) ∨
      GivesChild (next program settings cursor) := by
  cases cursor with
  | walking data index stop => exact walking_ends_or_gives program settings data index stop
  | finished => exact .inl ⟨none, .finished⟩
  | fresh subject =>
    rcases opens_or_null_or_fails program subject .length .data with
      ⟨data, length, opens⟩ | null | ⟨fault, failed⟩
    · rcases walking_ends_or_gives program settings data 0
        (min length.toNat settings.maxListChildren) with ⟨failure?, ends⟩ | gives
      · exact .inl ⟨failure?, .opened opens ends⟩
      · right
        unfold GivesChild
        rw [value_next_fresh_of_opens opens, notes_next_fresh_of_opens opens]
        exact gives
    · exact .inl ⟨none, .null null⟩
    · exact .inl ⟨_, .unopened failed⟩

end ListCursor

namespace DictCursor

variable {program : Program} {settings : Settings} {slots : Value} {cursor : DictCursor}

theorem notes_next_fresh_of_opens {subject : Value} {capacity : Int}
    (h : Opens program subject .capacity .slots slots capacity) :
    (next program settings (fresh subject)).notes =
      (next program settings (walking slots 0 capacity.toNat 0)).notes := by
  have still := notes_opening_of_opens h "Dict children"
  unfold Traced.notes at still ⊢
  rw [next_fresh_of_opens h, List.filterMap_append, still, List.nil_append]

theorem notes_slotEvents (program : Program) (settings : Settings) (slots : Value)
    (slot count : Nat) :
    (slotEvents program settings slots slot count).filterMap Event.line? = [] := by
  unfold slotEvents
  rw [List.filterMap_flatMap, List.flatMap_eq_nil_iff]
  intro i _
  exact quiet_readSlot program settings slots i

/-- A call that has vacant slots before it does what a call behind them does. -/
theorem advance_of_vacants {shown : Nat} (left : Nat) : ∀ {passed slot : Nat},
    Vacant program settings slots slot passed →
    advance program settings slots shown slot (passed + left) =
      ⟨(advance program settings slots shown (slot + passed) left).value,
        slotEvents program settings slots slot passed ++
          (advance program settings slots shown (slot + passed) left).events⟩ := by
  intro passed
  induction passed with
  | zero =>
    intro slot _
    rw [Nat.zero_add]
    rfl
  | succ passed ih =>
    intro slot vacant
    have rest : Vacant program settings slots (slot + 1) passed := by
      intro i hi
      rw [Nat.add_assoc, Nat.add_comm 1]
      exact vacant (i + 1) (by omega)
    have here : (readSlot program settings slots slot).result = .ok none :=
      vacant 0 (Nat.zero_lt_succ passed)
    have hslot : slot + (passed + 1) = slot + 1 + passed := by omega
    rw [Nat.add_right_comm, advance_of_vacant here, ih rest,
      slotEvents_succ, hslot, List.append_assoc]

/-- The same induction for a dictionary. Vacant slots on the way are passed over
without a note. -/
theorem Ends.next {failure? : Option Failure} (h : Ends program settings cursor failure?) :
    (next program settings cursor).value = (none, .finished) ∧
      (next program settings cursor).notes = Failure.lines failure? := by
  induction h with
  | null null =>
    rw [next_fresh_of_not_opens null.not_opens]
    exact ⟨rfl, notes_opening_of_null null _⟩
  | unopened failed =>
    rw [next_fresh_of_not_opens failed.not_opens]
    exact ⟨rfl, notes_opening_of_fails failed _⟩
  | opened opens _ ih =>
    rw [value_next_fresh_of_opens opens, notes_next_fresh_of_opens opens]
    exact ih
  | @exhausted slots slot ahead shown vacant =>
    have passing : advance program settings slots shown slot (ahead + 0) = _ :=
      advance_of_vacants 0 vacant
    rw [Nat.add_zero] at passing
    unfold Traced.notes
    rw [DictCursor.next, passing, List.filterMap_append, notes_slotEvents]
    exact ⟨rfl, rfl⟩
  | @slot slots slot passed ahead shown fault room vacant failed =>
    obtain ⟨left, rfl⟩ : ∃ left, ahead = passed + (left + 1) := ⟨ahead - passed - 1, by omega⟩
    unfold Traced.notes
    rw [DictCursor.next, advance_of_vacants (left + 1) vacant,
      advance_of_fault (result_readSlot_eq_error_iff.mpr failed), List.filterMap_append,
      List.filterMap_append, notes_slotEvents,
      (quiet_readSlot program settings slots (slot + passed)).filterMap_events]
    exact ⟨rfl, rfl⟩
  | finished => exact ⟨rfl, rfl⟩

/-- The cases of a dictionary's walk are those of the way that it advances. -/
theorem walking_ends_or_gives (program : Program) (settings : Settings) (slots : Value)
    (slot ahead shown : Nat) :
    (∃ failure?, Ends program settings (walking slots slot ahead shown) failure?) ∨
      GivesChild (next program settings (walking slots slot ahead shown)) := by
  rw [DictCursor.next]
  have reached := advances_advance program settings slots shown ahead slot
  generalize advance program settings slots shown slot ahead = answer at reached
  cases reached with
  | entry room vacant found => exact .inr ⟨_, _, rfl, notes_slotEvents program settings slots _ _⟩
  | exhausted vacant => exact .inl ⟨none, .exhausted vacant⟩
  | broken room vacant found =>
    exact .inl ⟨_, .slot room vacant (result_readSlot_eq_error_iff.mp found)⟩

/-- Only a call that ends leaves something for the log. -/
theorem ends_or_gives (program : Program) (settings : Settings) (cursor : DictCursor) :
    (∃ failure?, Ends program settings cursor failure?) ∨
      GivesChild (next program settings cursor) := by
  cases cursor with
  | walking slots slot ahead shown =>
    exact walking_ends_or_gives program settings slots slot ahead shown
  | owing due slots slot ahead shown => exact .inr ⟨due, _, rfl, rfl⟩
  | finished => exact .inl ⟨none, .finished⟩
  | fresh subject =>
    rcases opens_or_null_or_fails program subject .capacity .slots with
      ⟨slots, capacity, opens⟩ | null | ⟨fault, failed⟩
    · rcases walking_ends_or_gives program settings slots 0 capacity.toNat 0 with
        ⟨failure?, ends⟩ | gives
      · exact .inl ⟨failure?, .opened opens ends⟩
      · right
        unfold GivesChild
        rw [value_next_fresh_of_opens opens, notes_next_fresh_of_opens opens]
        exact gives
    · exact .inl ⟨none, .null null⟩
    · exact .inl ⟨_, .unopened failed⟩

end DictCursor

/-! ## A whole life -/

namespace Cursor

/-- The cursor of the same kind that has come to its end. -/
def ended : Cursor → Cursor
  | list _ => list .finished
  | dict _ => dict .finished
  | nothing => nothing

/-- The cursor behind the calls that find these programs. -/
def behindCalls (settings : Settings) : Cursor → List Program → Cursor
  | cursor, [] => cursor
  | cursor, program :: later => behindCalls settings (cursor.next program settings).value.2 later

variable {program : Program} {settings : Settings} {cursor : Cursor}

/-- A call that ends leaves a line for the failure that ended it, and otherwise
none. -/
theorem Ends.next {failure? : Option Failure} (h : Ends program settings cursor failure?) :
    (next program settings cursor).value = (none, cursor.ended) ∧
      (next program settings cursor).notes = Failure.lines failure? := by
  cases h with
  | list ends =>
    obtain ⟨hvalue, hnotes⟩ := ends.next
    rw [next_list, hvalue]
    exact ⟨rfl, hnotes⟩
  | dict ends =>
    obtain ⟨hvalue, hnotes⟩ := ends.next
    rw [next_dict, hvalue]
    exact ⟨rfl, hnotes⟩
  | nothing => exact ⟨rfl, rfl⟩

/-- A call that does not end gives a child and leaves nothing for the log. -/
theorem ends_or_gives (program : Program) (settings : Settings) (cursor : Cursor) :
    (∃ failure?, Ends program settings cursor failure?) ∨
      GivesChild (next program settings cursor) := by
  cases cursor with
  | list cursor =>
    rcases cursor.ends_or_gives program settings with
      ⟨failure?, ends⟩ | ⟨child, after, hvalue, hnotes⟩
    · exact .inl ⟨failure?, .list ends⟩
    · right
      rw [next_list, hvalue]
      exact ⟨child, .list after, rfl, hnotes⟩
  | dict cursor =>
    rcases cursor.ends_or_gives program settings with
      ⟨failure?, ends⟩ | ⟨child, after, hvalue, hnotes⟩
    · exact .inl ⟨failure?, .dict ends⟩
    · right
      rw [next_dict, hvalue]
      exact ⟨child, .dict after, rfl, hnotes⟩
  | nothing => exact .inl ⟨none, .nothing⟩

/-- Behind the end nothing is read, given or noted. -/
theorem calls_ended (cursor : Cursor) (programs : List Program) :
    cursor.ended.calls settings programs = List.replicate programs.length ⟨none, []⟩ := by
  cases cursor with
  | list cursor => exact calls_list_finished programs
  | dict cursor => exact calls_dict_finished programs
  | nothing => exact calls_of_ended (fun _ => rfl) programs

/-- A cursor's life in calls that find these programs: children come with the first
`count` calls, and the one behind them is the first without a child, if there is
one. -/
structure Life (settings : Settings) (cursor : Cursor) (programs : List Program) (count : Nat) :
    Prop where
  /-- A call that gives a child leaves nothing for the log. -/
  given : ∀ i, i < count → ∃ call child, (cursor.calls settings programs)[i]? = some call ∧
    call.value = some child ∧ call.notes = []
  /-- The first call without a child ends the walk, and leaves a line for the
  failure that ended it, if there was one. -/
  last : ∀ program, programs[count]? = some program →
    ∃ call, (cursor.calls settings programs)[count]? = some call ∧ call.value = none ∧
      (∃ failure?, Ends program settings (behindCalls settings cursor (programs.take count))
        failure?) ∧
      ∀ failure?,
        Ends program settings (behindCalls settings cursor (programs.take count)) failure? →
        call.notes = Failure.lines failure?
  /-- Behind that call nothing happens. -/
  after : EndsAt count (cursor.calls settings programs)
  /-- All calls together leave at most one line. -/
  once : ((cursor.calls settings programs).flatMap Traced.notes).length ≤ 1

theorem life_nil (cursor : Cursor) : Life settings cursor [] 0 where
  given i hi := absurd hi (Nat.not_lt_zero i)
  last program h := by cases h
  after := endsAt_nil 0
  once := Nat.zero_le 1

/-- The first call ends the walk. -/
theorem life_of_ends {failure? : Option Failure} (ends : Ends program settings cursor failure?)
    (later : List Program) : Life settings cursor (program :: later) 0 where
  given i hi := absurd hi (Nat.not_lt_zero i)
  last first h := by
    cases h
    refine ⟨_, rfl, ?_, ⟨failure?, ends⟩, fun other hother => hother.next.2⟩
    rw [Traced.value_map, ends.next.1]
  after := endsAt_of_finished ends.next.1 (calls_ended cursor) later
  once := by
    have quiet : (List.replicate later.length (⟨none, []⟩ : Traced (Option Child))).flatMap
        Traced.notes = [] := by
      rw [List.flatMap_eq_nil_iff]
      intro call hcall
      rw [List.eq_of_mem_replicate hcall]
      rfl
    have first : (Prod.fst <$> cursor.next program settings).notes = Failure.lines failure? :=
      ends.next.2
    rw [calls, ends.next.1, calls_ended, List.flatMap_cons, quiet, first, List.append_nil]
    exact Failure.length_lines_le failure?

/-- One more call in front, which gives a child. -/
theorem Life.cons {child : Child} {next : Cursor} {later : List Program} {count : Nat}
    (answer : (cursor.next program settings).value = (some child, next))
    (still : (cursor.next program settings).notes = []) (h : Life settings next later count) :
    Life settings cursor (program :: later) (count + 1) := by
  have hcalls : cursor.calls settings (program :: later) =
      (Prod.fst <$> cursor.next program settings) :: next.calls settings later := by
    rw [calls, answer]
  have hbehind : behindCalls settings cursor ((program :: later).take (count + 1)) =
      behindCalls settings next (later.take count) := by
    rw [List.take_succ_cons, behindCalls, answer]
  refine ⟨?_, ?_, ?_, ?_⟩
  · intro i hi
    rw [hcalls]
    cases i with
    | zero =>
      refine ⟨_, child, rfl, ?_, still⟩
      rw [Traced.value_map, answer]
    | succ i => exact h.given i (Nat.lt_of_succ_lt_succ hi)
  · intro program' hprogram
    rw [hcalls, hbehind]
    exact h.last program' hprogram
  · rw [hcalls]
    exact h.after.cons _
  · have first : (Prod.fst <$> cursor.next program settings).notes = [] := still
    rw [hcalls, List.flatMap_cons, first]
    exact h.once

/-- Every cursor has such a life, by induction on the programs that its calls
find. -/
theorem exists_life (settings : Settings) : ∀ (programs : List Program) (cursor : Cursor),
    ∃ count, Life settings cursor programs count := by
  intro programs
  induction programs with
  | nil =>
    intro cursor
    exact ⟨0, life_nil cursor⟩
  | cons program later ih =>
    intro cursor
    rcases cursor.ends_or_gives program settings with
      ⟨failure?, ends⟩ | ⟨child, next, answer, still⟩
    · exact ⟨0, life_of_ends ends later⟩
    · obtain ⟨count, life⟩ := ih next
      exact ⟨count + 1, life.cons answer still⟩

end Cursor

end HeapLens
