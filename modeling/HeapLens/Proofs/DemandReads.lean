import HeapLens.Proofs.CursorCalls
import HeapLens.Proofs.DictAdvance
import HeapLens.Proofs.DictListing
import HeapLens.Proofs.ListCalls
import HeapLens.Proofs.ReadsMade
import Mathlib.Data.List.Basic

/-!
# Children on demand, read by read

As long as types and memory stay what they are, each read that a cursor makes is
known. The first call opens the container, and nothing is opened later. After that

> a call on a list reads the pointer to the buffer once for the child that it gives
> (`Draws`); a call on a dictionary visits slots, and reads the pointer to them and
> the status of one slot for each visit (`Visits`).

No call reads ahead of the child that it gives: a dictionary is looked through up to
the slot of the next entry, whose value then comes without a read. Over all calls
the slots are visited in ascending order, and none of them twice
(`Visits.exists_flatten_eq`).

Both are stated for the calls on a walking cursor and proved along these calls. The
first call on a fresh cursor is such a call behind the opening
(`Cursor.steadyCalls_of_next`).
-/

namespace HeapLens

/-! ## The opening -/

@[simp] theorem Look.reads_orNote (x : Look α) (what : String) (fallback : α) :
    (x.orNote what fallback).reads = x.reads := by
  unfold Traced.reads
  rw [Look.events_orNote, List.filterMap_append]
  cases x.result with
  | ok a => exact List.append_nil _
  | error fault => exact List.append_nil _

/-- The reads of the look that opens a container are those of the call that it is
part of. -/
theorem reads_opening (program : Program) (subject : Value) (count buffer : RuntimeField)
    (what : String) :
    (opening program subject count buffer what).reads =
      (program.openBuffer subject count buffer).reads :=
  Look.reads_orNote _ _ _

/-- What is opened is a field, so that reading the pointer to the buffer is one
read. -/
theorem Opens.ownRead {program : Program} {subject data : Value} {count buffer : RuntimeField}
    {number : Int} (h : Opens program subject count buffer data number) :
    ∃ addr, program.ownRead data = [(addr, program.types.sizeOf data.type)] := by
  obtain ⟨body, -, -, -, hdata, -⟩ := h
  exact Program.ownRead_of_runtimeField hdata

namespace Cursor

/-- Calls, with some events before those of the first. -/
def behind (events : List Event) : List (Traced (Option Child)) → List (Traced (Option Child))
  | [] => []
  | call :: calls => ⟨call.value, events ++ call.events⟩ :: calls

/-- So many calls on a cursor while nothing changes. -/
def steadyCalls (program : Program) (settings : Settings) (cursor : Cursor) (n : Nat) :
    List (Traced (Option Child)) :=
  cursor.calls settings (List.replicate n program)

variable {program : Program} {settings : Settings}

/-- The first of the calls, and then those on the cursor that it leaves. -/
theorem steadyCalls_succ (cursor : Cursor) (n : Nat) :
    steadyCalls program settings cursor (n + 1) =
      (Prod.fst <$> cursor.next program settings) ::
        steadyCalls program settings (cursor.next program settings).value.2 n := by
  rw [steadyCalls, List.replicate_succ, calls]
  rfl

/-- A cursor that answers like another one, after some events of its own. -/
theorem steadyCalls_of_next {cursor cursor' : Cursor} {events : List Event}
    (same : cursor.next program settings =
      ⟨(cursor'.next program settings).value, events ++ (cursor'.next program settings).events⟩)
    (n : Nat) :
    steadyCalls program settings cursor n =
      behind events (steadyCalls program settings cursor' n) := by
  cases n with
  | zero => rfl
  | succ n =>
    rw [steadyCalls_succ, steadyCalls_succ, same]
    rfl

/-- Nothing happens in the calls on a cursor that has ended. -/
theorem eq_of_mem_steadyCalls {after : Cursor}
    (quiet : ∀ programs : List Program,
      after.calls settings programs = List.replicate programs.length ⟨none, []⟩)
    (program : Program) (n : Nat) :
    ∀ later ∈ steadyCalls program settings after n, later = ⟨none, []⟩ := by
  intro later hlater
  rw [steadyCalls, quiet] at hlater
  exact List.eq_of_mem_replicate hlater

/-- A cursor that ends with its next call. Behind that call nothing happens. -/
theorem steadyCalls_of_end {cursor after : Cursor} {events : List Event}
    (answer : cursor.next program settings = ⟨(none, after), events⟩)
    (quiet : ∀ programs : List Program,
      after.calls settings programs = List.replicate programs.length ⟨none, []⟩) (n : Nat) :
    steadyCalls program settings cursor n = behind events (List.replicate n ⟨none, []⟩) := by
  cases n with
  | zero => rfl
  | succ n =>
    rw [steadyCalls_succ, answer, steadyCalls, quiet, List.length_replicate, List.replicate_succ,
      behind, List.append_nil]
    rfl

end Cursor

/-! ## Lists -/

namespace ListCursor

/-- The calls on a list that has `ahead` elements before it. A child takes the reads
`element`. -/
inductive Draws (element : List (Nat × Nat)) : (ahead : Nat) → List (Traced (Option Child)) → Prop
  where
  /-- No more calls are made. -/
  | stopped (ahead : Nat) : Draws element ahead []
  | child {ahead : Nat} {child : Child} {call : Traced (Option Child)}
      {calls : List (Traced (Option Child))} (given : call.value = some child)
      (reads : call.reads = element) (more : Draws element ahead calls) :
      Draws element (ahead + 1) (call :: calls)
  /-- The end, and from then on nothing. Only an element that was tried and failed
  is read for. -/
  | ended {ahead : Nat} {call : Traced (Option Child)} {calls : List (Traced (Option Child))}
      (none : call.value = none) (reads : call.reads <+: element)
      (still : ahead = 0 → call.reads = []) (after : ∀ later ∈ calls, later = ⟨.none, []⟩) :
      Draws element ahead (call :: calls)

variable {program : Program} {settings : Settings} {data subject : Value}

/-- The calls on a walking cursor, one after the other. -/
theorem draws_walking {base : Nat} (read : (program.readPointer data).result = .ok base)
    (settings : Settings) (stop : Nat) : ∀ n index : Nat,
      Draws (program.ownRead data) (stop - index)
        (Cursor.steadyCalls program settings (.list (walking data index stop)) n) := by
  intro n
  induction n with
  | zero =>
    intro index
    exact .stopped _
  | succ n ih =>
    intro index
    have reads := Program.readsUpTo_index read index
    have quiet : ∀ later ∈ Cursor.steadyCalls program settings (.list finished) n,
        later = ⟨none, []⟩ :=
      Cursor.eq_of_mem_steadyCalls Cursor.calls_list_finished program n
    rw [Cursor.steadyCalls_succ, Cursor.next_list, next]
    rcases Nat.lt_or_ge index stop with room | full
    · cases found : (program.index data index).result with
      | ok element =>
        rw [advance_of_element room found, show stop - index = stop - (index + 1) + 1 by omega]
        exact .child rfl (reads.whole element found) (ih (index + 1))
      | error fault =>
        rw [advance_of_fault room found]
        refine .ended rfl ?_ (fun h => by omega) quiet
        -- The note is no read.
        show List.filterMap Event.read? (_ ++ _) <+: _
        rw [List.filterMap_append]
        exact (List.append_nil _).symm ▸ reads.part
    · rw [advance_of_stop full]
      exact .ended rfl List.nil_prefix (fun _ => rfl) quiet

/-- What `n` calls on a list read while nothing changes. -/
structure OnDemand (program : Program) (settings : Settings) (printer : Printer) (n : Nat) :
    Prop where
  /-- A child takes one read, that of the pointer to the buffer; the first call
  opens the list. -/
  opened : ∀ data length, Opens program printer.subject .length .data data length →
    (∃ addr, program.ownRead data = [(addr, program.types.sizeOf data.type)]) ∧
    ∃ walk, Cursor.steadyCalls program settings printer.cursor n =
        Cursor.behind (opening program printer.subject .length .data "List children").events walk ∧
      Draws (program.ownRead data) (min length.toNat settings.maxListChildren) walk
  /-- If there is nothing to walk over, nothing is read behind the opening. -/
  closed : (∀ data length, ¬ Opens program printer.subject .length .data data length) →
    Cursor.steadyCalls program settings printer.cursor n =
      Cursor.behind (opening program printer.subject .length .data "List children").events
        (List.replicate n ⟨none, []⟩)

/-- A list reads what opening it takes, and then the pointer to its buffer once for
each call. -/
theorem onDemand (program : Program) (settings : Settings) (subject : Value) (elem : String)
    (n : Nat) : OnDemand program settings ⟨subject, .list elem⟩ n where
  opened data length h := by
    obtain ⟨body, base, -, -, -, read, -⟩ := id h
    have hwalk := draws_walking read settings (min length.toNat settings.maxListChildren) n 0
    refine ⟨h.ownRead, _, Cursor.steadyCalls_of_next ?_ n, hwalk⟩
    show Cursor.next program settings (.list (fresh subject)) = _
    rw [Cursor.next_list, Cursor.next_list, next_fresh_of_opens h]
  closed h := by
    refine Cursor.steadyCalls_of_end ?_ Cursor.calls_list_finished n
    show Cursor.next program settings (.list (fresh subject)) = _
    rw [Cursor.next_list, next_fresh_of_not_opens h]

end ListCursor

/-! ## Dictionaries -/

namespace DictCursor

variable {program : Program} {settings : Settings} {slots subject : Value}

/-- The reads of visiting `count` slots from `slot` on. -/
def slotReads (program : Program) (settings : Settings) (slots : Value) (slot count : Nat) :
    List (Nat × Nat) :=
  (List.range' slot count).flatMap fun i => (readSlot program settings slots i).reads

/-- The calls on a dictionary that stands before slot `slot` and has `ahead` slots
before it, with the slots that each call visits. In `owed` is the value whose key
was given last. -/
inductive Visits (program : Program) (settings : Settings) (slots : Value) :
    (owed : Option Value) → (slot ahead : Nat) → List (Traced (Option Child)) →
      List (List Nat) → Prop
  where
  /-- No more calls are made. -/
  | stopped (owed : Option Value) (slot ahead : Nat) :
      Visits program settings slots owed slot ahead [] []
  /-- Behind vacant slots there is an entry, and this is its key. -/
  | key {slot ahead passed left : Nat} {entry : Entry} {label : String}
      {call : Traced (Option Child)} {calls : List (Traced (Option Child))}
      {visits : List (List Nat)} (room : passed + left + 1 = ahead)
      (vacant : Vacant program settings slots slot passed)
      (found : (readSlot program settings slots (slot + passed)).result = .ok (some entry))
      (given : call.value = some ⟨label, entry.key⟩)
      (reads : call.reads = slotReads program settings slots slot (passed + 1))
      (more : Visits program settings slots (some entry.value) (slot + passed + 1) left calls
        visits) :
      Visits program settings slots none slot ahead (call :: calls)
        (List.range' slot (passed + 1) :: visits)
  /-- The value that is owed. -/
  | value {owed : Value} {slot ahead : Nat} {label : String} {call : Traced (Option Child)}
      {calls : List (Traced (Option Child))} {visits : List (List Nat)}
      (given : call.value = some ⟨label, owed⟩) (reads : call.reads = [])
      (more : Visits program settings slots none slot ahead calls visits) :
      Visits program settings slots (some owed) slot ahead (call :: calls) ([] :: visits)
  /-- Behind vacant slots there is none any more, or one that cannot be read. From
  then on there is nothing. -/
  | ended {slot ahead passed tried : Nat} {call : Traced (Option Child)}
      {calls : List (Traced (Option Child))} (room : passed + tried ≤ ahead)
      (vacant : Vacant program settings slots slot passed)
      (last : tried = 0 ∧ passed = ahead ∨ tried = 1 ∧
        ∃ fault, (readSlot program settings slots (slot + passed)).result = .error fault)
      (none : call.value = none)
      (reads : call.reads = slotReads program settings slots slot (passed + tried))
      (after : ∀ later ∈ calls, later = ⟨.none, []⟩) :
      Visits program settings slots .none slot ahead (call :: calls)
        (List.range' slot (passed + tried) :: List.replicate calls.length [])

/-- All visits together go over the slots in ascending order, each of them once. -/
theorem Visits.exists_flatten_eq {owed : Option Value} {slot ahead : Nat}
    {calls : List (Traced (Option Child))} {visits : List (List Nat)}
    (h : Visits program settings slots owed slot ahead calls visits) :
    ∃ count, count ≤ ahead ∧ visits.flatten = List.range' slot count := by
  induction h with
  | stopped owed slot ahead => exact ⟨0, Nat.zero_le _, rfl⟩
  | @key slot ahead passed left _ _ _ _ _ room _ _ _ _ _ ih =>
    obtain ⟨count, hcount, hflat⟩ := ih
    refine ⟨passed + 1 + count, by omega, ?_⟩
    rw [List.flatten_cons, hflat]
    exact List.range'_append_1
  | value _ _ _ ih => exact ih
  | @ended slot ahead passed tried call calls room _ _ _ _ _ =>
    refine ⟨passed + tried, room, ?_⟩
    rw [List.flatten_cons, List.flatten_eq_nil_iff.mpr fun visit h => List.eq_of_mem_replicate h,
      List.append_nil]

/-- Of what happens at the slots the reads are those that each slot takes. -/
theorem reads_slotEvents (slot count : Nat) :
    (slotEvents program settings slots slot count).filterMap Event.read? =
      slotReads program settings slots slot count := by
  unfold slotEvents slotReads
  rw [List.filterMap_flatMap]
  rfl

/-- The calls on a walking cursor, and on one that owes a value, one after the
other. -/
theorem exists_visits (program : Program) (settings : Settings) (slots : Value) : ∀ n : Nat,
    (∀ slot ahead shown, ∃ visits, Visits program settings slots none slot ahead
      (Cursor.steadyCalls program settings (.dict (walking slots slot ahead shown)) n) visits) ∧
    (∀ due slot ahead shown, ∃ visits, Visits program settings slots (some due.value) slot ahead
      (Cursor.steadyCalls program settings (.dict (owing due slots slot ahead shown)) n)
      visits) := by
  intro n
  induction n with
  | zero =>
    exact ⟨fun slot ahead shown => ⟨[], .stopped none slot ahead⟩,
      fun due slot ahead shown => ⟨[], .stopped (some due.value) slot ahead⟩⟩
  | succ n ih =>
    obtain ⟨walks, owes⟩ := ih
    have quiet : ∀ later ∈ Cursor.steadyCalls program settings (.dict finished) n,
        later = ⟨none, []⟩ :=
      Cursor.eq_of_mem_steadyCalls Cursor.calls_dict_finished program n
    constructor
    · intro slot ahead shown
      rw [Cursor.steadyCalls_succ, Cursor.next_dict, next]
      have reached := advances_advance program settings slots shown ahead slot
      generalize advance program settings slots shown slot ahead = answer at reached
      cases reached with
      | @entry passed left entry room vacant found =>
        obtain ⟨visits, more⟩ := owes ⟨s!"[{shown}].value", entry.value⟩ (slot + passed + 1) left
          (shown + 1)
        exact ⟨_, .key room vacant found rfl (reads_slotEvents slot (passed + 1)) more⟩
      | exhausted vacant =>
        have room : ahead + 0 ≤ ahead := Nat.le_refl ahead
        exact ⟨_, .ended room vacant (.inl ⟨rfl, rfl⟩) rfl (reads_slotEvents slot ahead) quiet⟩
      | @broken passed fault room vacant found =>
        have room : passed + 1 ≤ ahead := room
        refine ⟨_, .ended room vacant (.inr ⟨rfl, fault, found⟩) rfl ?_ quiet⟩
        show List.filterMap Event.read? (_ ++ _) = _
        rw [List.filterMap_append, reads_slotEvents]
        exact List.append_nil _
    · intro due slot ahead shown
      obtain ⟨visits, more⟩ := walks slot ahead shown
      rw [Cursor.steadyCalls_succ, Cursor.next_dict, next]
      exact ⟨_, .value rfl rfl more⟩

/-- What one visit to a slot reads: all of `visitReads` if the slot can be read, or
the first of them. These are two reads, of the pointer to the slots and of the
slot's status. -/
structure VisitOnDemand (program : Program) (settings : Settings) (slots : Value) (slot : Nat) :
    Prop where
  reads : (readSlot program settings slots slot).ReadsUpTo (visitReads program slots slot)
  two : ∀ content, (readSlot program settings slots slot).result = .ok content →
    ∃ here status addr, (program.index slots slot).result = .ok here ∧
      program.runtimeField here .status = .ok status ∧
      visitReads program slots slot =
        program.ownRead slots ++ [(addr, program.types.sizeOf status.type)]

/-- A visit to a slot that fails has made the first of its reads. -/
theorem visitOnDemand {base : Nat} (read : (program.readPointer slots).result = .ok base)
    (settings : Settings) (slot : Nat) : VisitOnDemand program settings slots slot where
  reads := readsUpTo_readSlot read settings slot
  two content h := by
    obtain ⟨here, hhere, h⟩ := Look.exists_of_result_bind h
    obtain ⟨number, hnumber, -⟩ := Look.exists_of_result_bind h
    obtain ⟨status, hstatus, -⟩ := Look.exists_of_result_bind hnumber
    have hfield : program.runtimeField here .status = .ok status := hstatus
    obtain ⟨addr, hread⟩ := Program.ownRead_of_runtimeField hfield
    refine ⟨here, status, addr, hhere, hfield, ?_⟩
    unfold visitReads Program.fieldRead
    rw [hhere]
    dsimp only
    rw [hfield]
    exact congrArg (program.ownRead slots ++ ·) hread

/-- What `n` calls on a dictionary read while nothing changes. -/
structure OnDemand (program : Program) (settings : Settings) (printer : Printer) (n : Nat) :
    Prop where
  /-- The calls visit the slots in ascending order, each once; the first call opens
  the dictionary. -/
  opened : ∀ slots capacity, Opens program printer.subject .capacity .slots slots capacity →
    (∃ addr, program.ownRead slots = [(addr, program.types.sizeOf slots.type)]) ∧
    (∀ slot, VisitOnDemand program settings slots slot) ∧
    ∃ walk visits count, Cursor.steadyCalls program settings printer.cursor n =
        Cursor.behind (opening program printer.subject .capacity .slots "Dict children").events
          walk ∧
      Visits program settings slots none 0 capacity.toNat walk visits ∧
      count ≤ capacity.toNat ∧ visits.flatten = List.range count
  /-- If there is nothing to walk over, nothing is read behind the opening. -/
  closed : (∀ slots capacity, ¬ Opens program printer.subject .capacity .slots slots capacity) →
    Cursor.steadyCalls program settings printer.cursor n =
      Cursor.behind (opening program printer.subject .capacity .slots "Dict children").events
        (List.replicate n ⟨none, []⟩)

/-- A dictionary reads what opening it takes, and then the slots up to the next
entry for each key. -/
theorem onDemand (program : Program) (settings : Settings) (subject : Value) (key value : String)
    (n : Nat) : OnDemand program settings ⟨subject, .dict key value⟩ n where
  opened slots capacity h := by
    obtain ⟨body, base, -, -, -, read, -⟩ := id h
    obtain ⟨visits, hvisits⟩ := (exists_visits program settings slots n).1 0 capacity.toNat 0
    obtain ⟨count, hcount, hflat⟩ := hvisits.exists_flatten_eq
    rw [← List.range_eq_range'] at hflat
    refine ⟨h.ownRead, visitOnDemand read settings, _, visits, count,
      Cursor.steadyCalls_of_next ?_ n, hvisits, hcount, hflat⟩
    show Cursor.next program settings (.dict (fresh subject)) = _
    rw [Cursor.next_dict, Cursor.next_dict, next_fresh_of_opens h]
  closed h := by
    refine Cursor.steadyCalls_of_end ?_ Cursor.calls_dict_finished n
    show Cursor.next program settings (.dict (fresh subject)) = _
    rw [Cursor.next_dict, next_fresh_of_not_opens h]

end DictCursor

/-! ## Both -/

/-- **Children are demand-driven, down to the read.** Opening a container makes the
reads that `openingReads` names, or the first of them if it fails. As long as
nothing changes, the first call on a cursor makes these, and all else that is read
by so many calls is read for the children that they give: for a list the pointer to
the buffer with each child, for a dictionary the pointer to the slots and one status
with each slot. -/
theorem children_on_demand (program : Program) (settings : Settings) (subject : Value) :
    (∀ count buffer what,
      (opening program subject count buffer what).reads =
          (program.openBuffer subject count buffer).reads ∧
        (program.openBuffer subject count buffer).ReadsUpTo
          (program.openingReads subject count buffer)) ∧
    (∀ elem n, ListCursor.OnDemand program settings ⟨subject, .list elem⟩ n) ∧
    (∀ key value n, DictCursor.OnDemand program settings ⟨subject, .dict key value⟩ n) :=
  ⟨fun count buffer what => ⟨reads_opening program subject count buffer what,
      Program.readsUpTo_openBuffer program subject count buffer⟩,
    ListCursor.onDemand program settings subject, DictCursor.onDemand program settings subject⟩

open DictCursor (holeProgram opens_hole) in
/-- Three slots are promised and two are there, the first of them vacant. The first
call opens the dictionary and visits these two, the value comes without a read, the
third slot is tried and cannot be read, and from then on nothing is. -/
theorem children_on_demand_hole :
    (∃ walk visits count,
      Cursor.steadyCalls holeProgram {} (Printer.cursor ⟨.stored 0x1000 4, .dict "i64" "i64"⟩) 4 =
        Cursor.behind (opening holeProgram (.stored 0x1000 4) .capacity .slots
          "Dict children").events walk ∧
      DictCursor.Visits holeProgram {} (.stored 0x1010 3) none 0 3 walk visits ∧ count ≤ 3 ∧
      visits.flatten = List.range count) ∧
    (Cursor.steadyCalls holeProgram {} (Printer.cursor ⟨.stored 0x1000 4, .dict "i64" "i64"⟩)
      4).map Traced.reads =
      [[(0x1008, 8), (0x1010, 8), (0x1010, 8), (0x2000, 8), (0x1010, 8), (0x2018, 8)], [],
        [(0x1010, 8), (0x2030, 8)], []] := by
  have dict := (children_on_demand holeProgram {} (.stored 0x1000 4)).2.2 "i64" "i64" 4
  obtain ⟨-, -, hcalls⟩ := dict.opened _ _ opens_hole
  exact ⟨hcalls, rfl⟩

end HeapLens
