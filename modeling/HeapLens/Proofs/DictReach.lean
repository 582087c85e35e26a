import HeapLens.Proofs.DictListing
import HeapLens.Proofs.SnapshotHistory

/-!
# Dictionaries: a walk cannot run away

The capacity of a dictionary is a number in memory, and nothing checks it. What ends
the walk over a table that is not there is memory itself: the slots lie at equal
distances (`Program.exists_of_index`), the status of each has an address of its own,
and to be read that address has to be mapped.

> `length_le_mappedBytes`: no more slots have a status than there are bytes in
> memory.

Which slots a walk looks at is said by its events. Draining opens the container and
then looks at slots in ascending order, each once, up to the first that cannot be
read (`events_take_walking`).
-/

namespace HeapLens

/-- Where bytes are read, the first of them is mapped. -/
theorem Snapshot.mem_addresses_of_read {s : Snapshot} {addr len : Nat} {bytes : List UInt8}
    (h : s.Valid) (hlen : 1 ≤ len) (hread : s.read addr len = .ok bytes) : addr ∈ s.addresses := by
  obtain ⟨r, hr, hlo, hhi⟩ := (exists_read_iff h hlen).mp ⟨bytes, hread⟩
  have hfirst : s.Holds addr 1 := ⟨r, hr, hlo, by omega⟩
  exact (mem_addresses h).mpr ((exists_read_iff h (Nat.le_refl 1)).mpr hfirst)

namespace DictCursor

section

variable (program : Program) (settings : Settings) (slots : Value)

/-- A look at a slot on a walk. If it fails, the walk ends with this note. -/
def lookAt (slot : Nat) : Traced (Option Entry) :=
  (readSlot program settings slots slot).orNote s!"Dict slot {slot}" none

/-- How many slots are looked at on a walk over the first `capacity`: those before
the first that is not readable, and that one. -/
def looked (capacity : Nat) : Nat :=
  min capacity (firstUnreadable program settings slots capacity + 1)

end

variable {program : Program} {settings : Settings} {slots : Value} {slot ahead shown : Nat}

/-! ## Slots in memory -/

/-- Where the status of a slot was read: in the slot, at the field's offset. -/
theorem exists_read_of_slotStatus {base slot : Nat} {elem : TypeId} {status : Int}
    (hindex : ∀ w, (program.index slots slot).result = .ok w →
      0 < program.types.sizeOf elem ∧ w = .stored (base + slot * program.types.sizeOf elem) elem)
    (h : slotStatus program slots slot = .ok status) :
    0 < program.types.sizeOf elem ∧ ∃ f size bytes,
      program.types.findField elem RuntimeField.status.name = .ok f ∧ 1 ≤ size ∧
      program.memory.read (base + slot * program.types.sizeOf elem + f.offset) size =
        .ok bytes := by
  unfold slotStatus at h
  cases hhere : (program.index slots slot).result with
  | error fault =>
    rw [hhere] at h
    cases h
  | ok here =>
    rw [hhere] at h
    change (program.readCount here .status).result = .ok status at h
    obtain ⟨count, hcount, hread⟩ := Look.exists_of_result_bind h
    have hfield : program.field here RuntimeField.status.name = .ok count := hcount
    obtain ⟨f, addr, hf, hplace, -, rfl⟩ := Program.field_eq_ok_iff.mp hfield
    obtain ⟨hsized, rfl⟩ := hindex here hhere
    cases hplace
    obtain ⟨size, bytes, hsize, hbytes⟩ := Program.exists_read_of_readInt hread
    exact ⟨hsized, f, size, bytes, hf, hsize, hbytes⟩

/-- Each slot with a status has an address of its own that is mapped. -/
theorem exists_status_addresses (types : TypeTable) {s : Snapshot} (h : s.Valid) (slots : Value) :
    ∃ address : Nat → Nat, Function.Injective address ∧
      ∀ slot status, slotStatus ⟨types, s.memory⟩ slots slot = .ok status →
        address slot ∈ s.addresses := by
  obtain ⟨base, elem, hindex⟩ := Program.exists_of_index ⟨types, s.memory⟩ slots
  have hread : ∀ {slot status}, slotStatus ⟨types, s.memory⟩ slots slot = .ok status →
      ∃ f, types.findField elem RuntimeField.status.name = .ok f ∧ 0 < types.sizeOf elem ∧
        base + slot * types.sizeOf elem + f.offset ∈ s.addresses := by
    intro slot status hok
    obtain ⟨hsized, f, size, bytes, hf, hsize, hbytes⟩ :=
      exists_read_of_slotStatus (hindex slot) hok
    exact ⟨f, hf, hsized, Snapshot.mem_addresses_of_read h hsize hbytes⟩
  -- The offset is that of one and the same field, if there is a slot with a status
  -- at all.
  by_cases hsome : ∃ slot status, slotStatus ⟨types, s.memory⟩ slots slot = .ok status
  · obtain ⟨slot, status, hok⟩ := hsome
    obtain ⟨f, hf, hsized, -⟩ := hread hok
    refine ⟨fun slot => base + slot * types.sizeOf elem + f.offset, ?_, ?_⟩
    · intro i j hij
      have hmul : i * types.sizeOf elem = j * types.sizeOf elem := by
        dsimp only at hij
        omega
      exact Nat.eq_of_mul_eq_mul_right hsized hmul
    · intro slot status hok
      obtain ⟨f', hf', -, hmem⟩ := hread hok
      rw [hf] at hf'
      cases hf'
      exact hmem
  · exact ⟨id, Function.injective_id, fun slot status hok => absurd ⟨slot, status, hok⟩ hsome⟩

/-- Pigeonholes: different slots have their statuses at different addresses. -/
theorem length_le_mappedBytes {types : TypeTable} {s : Snapshot} (h : s.Valid) {found : List Nat}
    (distinct : found.Nodup)
    (hstatus : ∀ slot ∈ found, ∃ status, slotStatus ⟨types, s.memory⟩ slots slot = .ok status) :
    found.length ≤ s.mappedBytes := by
  obtain ⟨address, hinj, hmapped⟩ := exists_status_addresses types h slots
  have hsub : found.map address ⊆ s.addresses := by
    intro x hx
    obtain ⟨slot, hslot, rfl⟩ := List.mem_map.mp hx
    obtain ⟨status, hok⟩ := hstatus slot hslot
    exact hmapped slot status hok
  have hle := (distinct.map hinj).length_le_of_subset hsub
  rwa [List.length_map, Snapshot.length_addresses] at hle

theorem exists_status_of_readable {slot : Nat} (h : readable program settings slots slot = true) :
    ∃ status, slotStatus program slots slot = .ok status := by
  unfold readable at h
  cases hstatus : slotStatus program slots slot with
  | ok status => exact ⟨status, rfl⟩
  | error fault =>
    rw [hstatus] at h
    cases h

/-- The readable slots at the start of a table are no more than there are bytes in
memory. -/
theorem firstUnreadable_le_mappedBytes {types : TypeTable} {s : Snapshot} (h : s.Valid)
    (capacity : Nat) :
    firstUnreadable ⟨types, s.memory⟩ settings slots capacity ≤ s.mappedBytes := by
  have hstatus : ∀ slot ∈ List.range (firstUnreadable ⟨types, s.memory⟩ settings slots capacity),
      ∃ status, slotStatus ⟨types, s.memory⟩ slots slot = .ok status := by
    intro slot hslot
    exact exists_status_of_readable (readable_of_lt_firstUnreadable (List.mem_range.mp hslot))
  have hle := length_le_mappedBytes h List.nodup_range hstatus
  rwa [List.length_range] at hle

/-! ## What a walk looks at -/

/-- A visit that comes to a result leaves no note. -/
theorem events_lookAt_of_ok {slot : Nat} {content : Option Entry}
    (h : (readSlot program settings slots slot).result = .ok content) :
    (lookAt program settings slots slot).events =
      (readSlot program settings slots slot).events := by
  unfold lookAt
  rw [Look.events_orNote, h, List.append_nil]

theorem events_lookAt_of_error {slot : Nat} {fault : Fault}
    (h : (readSlot program settings slots slot).result = .error fault) :
    (lookAt program settings slots slot).events =
      (readSlot program settings slots slot).events ++
        [.note (failureLine s!"Dict slot {slot}" fault)] := by
  unfold lookAt
  rw [Look.events_orNote, h]

/-- A slot is readable if reading it succeeds. -/
theorem readable_iff_readSlot :
    readable program settings slots slot = true ↔
      ∃ content, (readSlot program settings slots slot).result = .ok content := by
  constructor
  · intro hread
    cases hocc : occupied program settings slots slot with
    | false => exact ⟨none, readSlot_of_vacant hread hocc⟩
    | true =>
      obtain ⟨key, value, -, -, hslot⟩ := readSlot_of_occupied hread hocc
      exact ⟨_, hslot⟩
  · rintro ⟨content, hslot⟩
    by_contra hnot
    obtain ⟨fault, hfault⟩ := readSlot_of_unreadable (Bool.eq_false_iff.mpr hnot)
    rw [hslot] at hfault
    cases hfault

/-- Draining goes on behind a vacant slot. -/
theorem events_take_of_vacant (found : (readSlot program settings slots slot).result = .ok none)
    (limit : Nat) :
    (Cursor.take program settings (limit + 1)
      (.dict (walking slots slot (ahead + 1) shown))).events =
      (lookAt program settings slots slot).events ++
        (Cursor.take program settings (limit + 1)
          (.dict (walking slots (slot + 1) ahead shown))).events := by
  refine Cursor.events_take_of_next ?_ limit
  rw [events_lookAt_of_ok found, Cursor.next_dict, Cursor.next_dict, next, next,
    advance_of_vacant found]

/-- The value of an entry comes without another look. -/
theorem events_take_of_entry {entry : Entry}
    (found : (readSlot program settings slots slot).result = .ok (some entry)) (limit : Nat) :
    (Cursor.take program settings (limit + 2)
      (.dict (walking slots slot (ahead + 1) shown))).events =
      (lookAt program settings slots slot).events ++
        (Cursor.take program settings limit
          (.dict (walking slots (slot + 1) ahead (shown + 1)))).events := by
  have key : Cursor.next program settings (.dict (walking slots slot (ahead + 1) shown)) =
      ⟨(some ⟨s!"[{shown}].key", entry.key⟩,
        .dict (owing ⟨s!"[{shown}].value", entry.value⟩ slots (slot + 1) ahead (shown + 1))),
        (readSlot program settings slots slot).events⟩ := by
    rw [Cursor.next_dict, next, advance_of_entry found]
  rw [Cursor.events_take_of_some (congrArg Traced.value key), Cursor.events_take_of_some rfl, key,
    events_lookAt_of_ok found]
  rfl

theorem events_take_of_broken {fault : Fault}
    (found : (readSlot program settings slots slot).result = .error fault) (limit : Nat) :
    (Cursor.take program settings (limit + 1)
      (.dict (walking slots slot (ahead + 1) shown))).events =
      (lookAt program settings slots slot).events := by
  have last : Cursor.next program settings (.dict (walking slots slot (ahead + 1) shown)) =
      ⟨(none, .dict finished), (lookAt program settings slots slot).events⟩ := by
    rw [Cursor.next_dict, next, advance_of_fault found, events_lookAt_of_error found]
  rw [Cursor.events_take_of_none (congrArg Traced.value last), last]

/-- The invariant of the walk's events, along the slots that are left: what is
looked at is every slot from here on up to the first that is not readable. -/
theorem events_take_walking {stop : Nat}
    (hread : ∀ i, i < stop → readable program settings slots i = true) :
    ∀ (ahead slot shown limit : Nat), slot ≤ stop → stop ≤ slot + ahead →
      (stop < slot + ahead → readable program settings slots stop = false) → 2 * ahead < limit →
      (Cursor.take program settings limit (.dict (walking slots slot ahead shown))).events =
        (List.range' slot (min (slot + ahead) (stop + 1) - slot)).flatMap fun i =>
          (lookAt program settings slots i).events := by
  intro ahead
  induction ahead with
  | zero =>
    intro slot shown limit hle hge _ hlimit
    obtain ⟨limit, rfl⟩ : ∃ l, limit = l + 1 := ⟨limit - 1, by omega⟩
    have answer : (Cursor.next program settings (.dict (walking slots slot 0 shown))).value =
        (none, .dict finished) := rfl
    rw [Cursor.events_take_of_none answer, show min (slot + 0) (stop + 1) - slot = 0 by omega]
    rfl
  | succ ahead ih =>
    intro slot shown limit hle hge hbroken hlimit
    -- An entry takes two calls, and a third one may find the end.
    obtain ⟨limit, rfl⟩ : ∃ l, limit = l + 3 := ⟨limit - 3, by omega⟩
    have hmore : min (slot + (ahead + 1)) (stop + 1) - slot =
        min (slot + 1 + ahead) (stop + 1) - (slot + 1) + 1 := by omega
    rw [hmore, List.range'_succ, List.flatMap_cons]
    rcases Nat.lt_or_ge slot stop with hlt | hstop
    · have hrest := fun shown limit => ih (slot + 1) shown limit hlt (by omega)
        fun h => hbroken (by omega)
      obtain ⟨content, found⟩ := readable_iff_readSlot.mp (hread slot hlt)
      cases content with
      | none => rw [events_take_of_vacant found, hrest shown (limit + 3) (by omega)]
      | some entry => rw [events_take_of_entry found, hrest (shown + 1) (limit + 1) (by omega)]
    · have heq : slot = stop := Nat.le_antisymm hle hstop
      subst heq
      obtain ⟨fault, found⟩ := readSlot_of_unreadable (hbroken (by omega))
      rw [events_take_of_broken found,
        show min (slot + 1 + ahead) (slot + 1) - (slot + 1) = 0 by omega]
      exact (List.append_nil _).symm

/-! ## The whole dictionary -/

/-- What draining a dictionary that opens looks at. -/
theorem events_drain_of_opens {subject : Value} {capacity : Int}
    (h : Opens program subject .capacity .slots slots capacity) :
    (Cursor.drain program settings (.dict (fresh subject))).events =
      (opening program subject .capacity .slots "Dict children").events ++
        (List.range (looked program settings slots capacity.toNat)).flatMap fun slot =>
          (lookAt program settings slots slot).events := by
  -- It is not the number of children asked for that ends the walk.
  have hlimit : 2 * capacity.toNat < addressLimit - 1 + 1 := by
    obtain ⟨body, addr, -, hcapacity, -⟩ := h
    have hlt := Program.readCount_lt hcapacity
    have hpos : 0 < addressLimit := by decide
    omega
  have hread : ∀ i, i < firstUnreadable program settings slots capacity.toNat →
      readable program settings slots i = true := fun _ => readable_of_lt_firstUnreadable
  have hwalk := events_take_walking hread capacity.toNat 0 0 (addressLimit - 1 + 1) (Nat.zero_le _)
    (by rw [Nat.zero_add]; exact firstUnreadable_le program settings slots capacity.toNat)
    (fun hlt => readable_firstUnreadable (by rwa [Nat.zero_add] at hlt)) hlimit
  have hfirst : Cursor.next program settings (.dict (fresh subject)) =
      ⟨(Cursor.next program settings (.dict (walking slots 0 capacity.toNat 0))).value,
        (opening program subject .capacity .slots "Dict children").events ++
          (Cursor.next program settings (.dict (walking slots 0 capacity.toNat 0))).events⟩ := by
    rw [Cursor.next_dict, Cursor.next_dict, next_fresh_of_opens h]
  show (Cursor.take program settings (addressLimit - 1 + 1) _).events = _
  rw [Cursor.events_take_of_next hfirst, hwalk, Nat.sub_zero, Nat.zero_add,
    ← List.range_eq_range']
  rfl

/-- Of a dictionary that does not open no slot is looked at. -/
theorem events_drain_of_not_opens {subject : Value}
    (h : ∀ slots capacity, ¬ Opens program subject .capacity .slots slots capacity) :
    (Cursor.drain program settings (.dict (fresh subject))).events =
      (opening program subject .capacity .slots "Dict children").events := by
  have last : Cursor.next program settings (.dict (fresh subject)) =
      ⟨(none, .dict finished),
        (opening program subject .capacity .slots "Dict children").events⟩ := by
    rw [Cursor.next_dict, next_fresh_of_not_opens h]
  show (Cursor.take program settings (addressLimit - 1 + 1) _).events = _
  rw [Cursor.events_take_of_none (congrArg Traced.value last), last]

/-- Of the slots that are looked at all but the last were read, and each of these
takes up mapped bytes of its own. -/
theorem looked_le {types : TypeTable} {s : Snapshot} (h : s.Valid) (capacity : Nat) :
    looked ⟨types, s.memory⟩ settings slots capacity ≤ min capacity (s.mappedBytes + 1) := by
  have hstop : firstUnreadable ⟨types, s.memory⟩ settings slots capacity ≤ s.mappedBytes :=
    firstUnreadable_le_mappedBytes h capacity
  unfold looked
  omega

/-- Two children come from each slot that was read. -/
theorem length_listing_le_mappedBytes {types : TypeTable} {s : Snapshot} (h : s.Valid)
    (capacity : Nat) :
    (listing ⟨types, s.memory⟩ settings slots capacity).length ≤ 2 * s.mappedBytes := by
  have hlist := length_listing_le_stop ⟨types, s.memory⟩ settings slots capacity
  have hstop : firstUnreadable ⟨types, s.memory⟩ settings slots capacity ≤ s.mappedBytes :=
    firstUnreadable_le_mappedBytes h capacity
  omega

/-- However many slots are looked at, memory bounds those that can be read. -/
theorem countP_readSlot_le {types : TypeTable} {s : Snapshot} (h : s.Valid) (count : Nat) :
    ((List.range count).countP fun slot =>
      (readSlot ⟨types, s.memory⟩ settings slots slot).result.isOk) ≤ s.mappedBytes := by
  have hstatus : ∀ slot ∈ (List.range count).filter
      (fun slot => (readSlot ⟨types, s.memory⟩ settings slots slot).result.isOk),
      ∃ status, slotStatus ⟨types, s.memory⟩ slots slot = .ok status := by
    intro slot hslot
    have hok := (List.mem_filter.mp hslot).2
    cases found : (readSlot ⟨types, s.memory⟩ settings slots slot).result with
    | ok content => exact exists_status_of_readable (readable_iff_readSlot.mpr ⟨content, found⟩)
    | error fault =>
      rw [found] at hok
      cases hok
  rw [List.countP_eq_length_filter]
  exact length_le_mappedBytes h (List.nodup_range.filter _) hstatus

/-- **A walk over a dictionary is bounded by memory.** Whatever capacity a
dictionary states: draining it opens it and then looks at the slots `0`, `1`, … in
this order, each once. These are no more than the capacity, and no more than one for
each mapped byte and one; no more of them than there are mapped bytes can be read;
and no more than two children for each mapped byte come of it. A dictionary that
does not open is not looked into. -/
theorem drain_bounded (types : TypeTable) (ops : List Snapshot.Op) (settings : Settings)
    (subject : Value) (key value : String) :
    let program : Program := ⟨types, (Snapshot.run ops).memory⟩
    let drained := (Printer.cursor ⟨subject, .dict key value⟩).drain program settings
    (∀ slots capacity, Opens program subject .capacity .slots slots capacity →
      drained.events = (opening program subject .capacity .slots "Dict children").events ++
        ((List.range (looked program settings slots capacity.toNat)).flatMap fun slot =>
          (lookAt program settings slots slot).events) ∧
      looked program settings slots capacity.toNat ≤
        min capacity.toNat ((Snapshot.run ops).mappedBytes + 1) ∧
      ((List.range (looked program settings slots capacity.toNat)).countP fun slot =>
        (readSlot program settings slots slot).result.isOk) ≤ (Snapshot.run ops).mappedBytes ∧
      drained.value.length ≤ 2 * (Snapshot.run ops).mappedBytes) ∧
    ((∀ slots capacity, ¬ Opens program subject .capacity .slots slots capacity) →
      drained.events = (opening program subject .capacity .slots "Dict children").events ∧
        drained.value = []) := by
  have hvalid := (Snapshot.recalls_run ops).valid
  dsimp only
  constructor
  · intro slots capacity h
    refine ⟨events_drain_of_opens h, looked_le hvalid _, countP_readSlot_le hvalid _, ?_⟩
    show (Cursor.drain _ _ (.dict (fresh subject))).value.length ≤ _
    rw [(yields_fresh_of_opens h).drain_eq (length_listing_le_of_opens h)]
    exact length_listing_le_mappedBytes hvalid _
  · intro h
    exact ⟨events_drain_of_not_opens h, (yields_fresh_of_not_opens h).drain_eq (Nat.zero_le _)⟩

/-! ### A capacity that is corrupt

The greatest capacity that there is, and a table of two slots. -/

/-- A dictionary's struct and its slots, one of them occupied. -/
def corruptOps : List Snapshot.Op :=
  [.add 0x1000 ([9, 0x7FFFFFFFFFFFFFFF, 0x2000].flatMap (LittleEndian.toBytes 8)),
    .add 0x2000 ([0, 5, 6, 1, 7, 8].flatMap (LittleEndian.toBytes 8))]

/-- There are 72 bytes to read from. -/
theorem drain_bounded_corrupt :
    Opens ⟨holeTypes, (Snapshot.run corruptOps).memory⟩ (.stored 0x1000 4) .capacity .slots
        (.stored 0x1010 3) 0x7FFFFFFFFFFFFFFF ∧
      looked ⟨holeTypes, (Snapshot.run corruptOps).memory⟩ {} (.stored 0x1010 3)
        0x7FFFFFFFFFFFFFFF ≤ 73 ∧
      ((Printer.cursor ⟨.stored 0x1000 4, .dict "i64" "i64"⟩).drain
        ⟨holeTypes, (Snapshot.run corruptOps).memory⟩ {}).value.length ≤ 144 := by
  have hopens : Opens ⟨holeTypes, (Snapshot.run corruptOps).memory⟩ (.stored 0x1000 4) .capacity
      .slots (.stored 0x1010 3) 0x7FFFFFFFFFFFFFFF :=
    ⟨.stored 0x1000 4, 0x2000, .itself rfl, rfl, rfl, rfl, by decide⟩
  have hmapped : (Snapshot.run corruptOps).mappedBytes = 72 := by decide
  obtain ⟨-, hlooked, -, hchildren⟩ :=
    (drain_bounded holeTypes corruptOps {} (.stored 0x1000 4) "i64" "i64").1 _ _ hopens
  rw [hmapped] at hlooked hchildren
  exact ⟨hopens, Nat.le_trans hlooked (Nat.min_le_right _ _), hchildren⟩

end DictCursor

end HeapLens
