import HeapLens.Memory.Snapshot
import HeapLens.Proofs.CursorStep
import HeapLens.Types.Layout

/-!
# Dictionaries: the walk is exact

What a dictionary shows is defined here without a cursor. A slot is *readable* if
its status can be read and, when it is occupied, its key and value can be found;
`firstUnreadable` is where the readable slots end. `listing` goes over the slots
before that, in ascending order, and takes from each occupied one its key and its
value, numbered by the occupied slots below it.

The walk is tied to it by one invariant:

> `yields_walking`: a cursor before slot `slot` that has shown as many entries as
> there are occupied slots below `slot` yields the rest of the listing from `slot`
> on.

`drain_eq_listing` is its case `slot = 0`. The length that the dictionary states for
itself plays no part: neither side reads it.
-/

namespace HeapLens.DictCursor

section Listing

variable (program : Program) (settings : Settings) (slots : Value)

def slotStatus (slot : Nat) : Except Fault Int :=
  (program.index slots slot).result >>= fun here => (program.readCount here .status).result

def slotField (slot : Nat) (f : RuntimeField) : Except Fault Value :=
  (program.index slots slot).result >>= fun here => program.runtimeField here f

/-- Whether a slot has the status of one that holds an entry. -/
def occupied (slot : Nat) : Bool :=
  match slotStatus program slots slot with
  | .ok status => status == settings.occupiedStatus
  | .error _ => false

/-- Whether all of a slot that is shown can be read. -/
def readable (slot : Nat) : Bool :=
  match slotStatus program slots slot with
  | .ok status =>
    status != settings.occupiedStatus ||
      (slotField program slots slot .key).isOk && (slotField program slots slot .value).isOk
  | .error _ => false

/-- The least of the first `capacity` slots that is not readable; `capacity` if
there is none. -/
def firstUnreadable (capacity : Nat) : Nat :=
  (List.range capacity).findIdx fun slot => !readable program settings slots slot

/-- How many slots below `slot` are occupied. -/
def occupiedBelow (slot : Nat) : Nat := (List.range slot).countP (occupied program settings slots)

/-- Key and value of an occupied slot, with its number among the occupied ones. -/
def slotChildren (slot : Nat) : List Child :=
  match occupied program settings slots slot, slotField program slots slot .key,
      slotField program slots slot .value with
  | true, .ok key, .ok value =>
    [⟨s!"[{occupiedBelow program settings slots slot}].key", key⟩,
      ⟨s!"[{occupiedBelow program settings slots slot}].value", value⟩]
  | _, _, _ => []

/-- What the first `capacity` slots show: all occupied ones before the first that is
not readable. -/
def listing (capacity : Nat) : List Child :=
  (List.range (firstUnreadable program settings slots capacity)).flatMap
    (slotChildren program settings slots)

end Listing

variable {program : Program} {settings : Settings} {slots : Value}

/-! ## One slot -/

/-- Reading a slot in terms of its status and its fields. -/
theorem result_readSlot (slot : Nat) :
    (readSlot program settings slots slot).result =
      slotStatus program slots slot >>= fun status =>
        if status = settings.occupiedStatus then
          slotField program slots slot .key >>= fun key =>
            slotField program slots slot .value >>= fun value => .ok (some ⟨key, value⟩)
        else .ok none := by
  unfold readSlot slotStatus slotField
  -- The slot is looked up once by `readSlot` and three times on the other side.
  rw [Look.result_bind]
  cases (program.index slots slot).result with
  | error fault => rfl
  | ok here =>
    show (program.readCount here .status >>= _).result = _
    rw [Look.result_bind]
    show _ = (program.readCount here .status).result >>= _
    congr 1
    funext status
    split
    · rw [Look.result_bind, Look.result_lift]
      show _ = program.runtimeField here .key >>= _
      congr 1
      funext key
      rw [Look.result_bind, Look.result_lift]
      rfl
    · rfl

/-- A slot that can be read and is not occupied has no entry. -/
theorem readSlot_of_vacant {slot : Nat} (hread : readable program settings slots slot = true)
    (hfree : occupied program settings slots slot = false) :
    (readSlot program settings slots slot).result = .ok none := by
  unfold readable at hread
  unfold occupied at hfree
  rw [result_readSlot]
  cases hstatus : slotStatus program slots slot with
  | error fault => rw [hstatus] at hread; cases hread
  | ok status =>
    rw [hstatus] at hfree
    have hne : status ≠ settings.occupiedStatus := by simpa using hfree
    show (if status = settings.occupiedStatus then _ else _) = _
    rw [if_neg hne]

/-- An occupied slot that is readable has a key and a value, and these are its
children. -/
theorem readSlot_of_occupied {slot : Nat} (hread : readable program settings slots slot = true)
    (hocc : occupied program settings slots slot = true) :
    ∃ key value, slotField program slots slot .key = .ok key ∧
      slotField program slots slot .value = .ok value ∧
      (readSlot program settings slots slot).result = .ok (some ⟨key, value⟩) := by
  unfold readable at hread
  unfold occupied at hocc
  rw [result_readSlot]
  cases hstatus : slotStatus program slots slot with
  | error fault => rw [hstatus] at hread; cases hread
  | ok status =>
    rw [hstatus] at hread hocc
    have heq : status = settings.occupiedStatus := by simpa using hocc
    cases hkey : slotField program slots slot .key with
    | error fault => rw [hkey] at hread; simp [heq, Except.isOk, Except.toBool] at hread
    | ok key =>
      cases hvalue : slotField program slots slot .value with
      | error fault => rw [hvalue] at hread; simp [heq, Except.isOk, Except.toBool] at hread
      | ok value =>
        refine ⟨key, value, rfl, rfl, ?_⟩
        show (if status = settings.occupiedStatus then _ else _) = _
        rw [if_pos heq]
        rfl

theorem readSlot_of_unreadable {slot : Nat} (hread : readable program settings slots slot = false) :
    ∃ fault, (readSlot program settings slots slot).result = .error fault := by
  unfold readable at hread
  rw [result_readSlot]
  cases hstatus : slotStatus program slots slot with
  | error fault => exact ⟨fault, rfl⟩
  | ok status =>
    rw [hstatus] at hread
    by_cases heq : status = settings.occupiedStatus
    · show ∃ fault, (if status = settings.occupiedStatus then _ else _) = _
      rw [if_pos heq]
      cases hkey : slotField program slots slot .key with
      | error fault => exact ⟨fault, rfl⟩
      | ok key =>
        cases hvalue : slotField program slots slot .value with
        | error fault => exact ⟨fault, rfl⟩
        | ok value =>
          rw [hkey, hvalue] at hread
          simp [heq, Except.isOk, Except.toBool] at hread
    · simp [heq] at hread

theorem slotChildren_of_vacant {slot : Nat} (hfree : occupied program settings slots slot = false) :
    slotChildren program settings slots slot = [] := by
  unfold slotChildren
  rw [hfree]

/-- An occupied slot has two children, which are labelled by the number of entries
below. -/
theorem slotChildren_of_occupied {slot : Nat} {key value : Value}
    (hocc : occupied program settings slots slot = true)
    (hkey : slotField program slots slot .key = .ok key)
    (hvalue : slotField program slots slot .value = .ok value) :
    slotChildren program settings slots slot =
      [⟨s!"[{occupiedBelow program settings slots slot}].key", key⟩,
        ⟨s!"[{occupiedBelow program settings slots slot}].value", value⟩] := by
  unfold slotChildren
  rw [hocc, hkey, hvalue]

theorem length_slotChildren_le (program : Program) (settings : Settings) (slots : Value)
    (slot : Nat) : (slotChildren program settings slots slot).length ≤ 2 := by
  unfold slotChildren
  split
  · exact Nat.le_refl 2
  · exact Nat.zero_le 2

/-! ## Where the readable slots end -/

theorem firstUnreadable_le (program : Program) (settings : Settings) (slots : Value)
    (capacity : Nat) : firstUnreadable program settings slots capacity ≤ capacity := by
  have hle : (List.range capacity).findIdx (fun slot => !readable program settings slots slot) ≤
      (List.range capacity).length := List.findIdx_le_length
  rwa [List.length_range] at hle

/-- Below the first slot that cannot be read all can. -/
theorem readable_of_lt_firstUnreadable {capacity slot : Nat}
    (h : slot < firstUnreadable program settings slots capacity) :
    readable program settings slots slot = true := by
  have hnot := List.not_of_lt_findIdx h
  simpa using hnot

theorem readable_firstUnreadable {capacity : Nat}
    (h : firstUnreadable program settings slots capacity < capacity) :
    readable program settings slots (firstUnreadable program settings slots capacity) = false := by
  have hlt : (List.range capacity).findIdx (fun slot => !readable program settings slots slot) <
      (List.range capacity).length := by rwa [List.length_range]
  have hhere := List.findIdx_getElem (w := hlt)
  rw [List.getElem_range] at hhere
  show readable program settings slots (List.findIdx _ _) = false
  simpa using hhere

theorem occupiedBelow_succ (slot : Nat) :
    occupiedBelow program settings slots (slot + 1) =
      occupiedBelow program settings slots slot +
        if occupied program settings slots slot = true then 1 else 0 := by
  unfold occupiedBelow
  rw [List.range_succ, List.countP_append, List.countP_singleton]

/-! ## The walk -/

/-- The invariant of the walk, along the slots that are left: with as many entries
shown as there are occupied slots below, the cursor yields what the listing has from
here on. -/
theorem yields_walking {stop : Nat}
    (hread : ∀ i, i < stop → readable program settings slots i = true) :
    ∀ (ahead slot : Nat), slot ≤ stop → stop ≤ slot + ahead →
      (stop < slot + ahead → readable program settings slots stop = false) →
      Cursor.Yields program settings
        (.dict (walking slots slot ahead (occupiedBelow program settings slots slot)))
        ((List.range' slot (stop - slot)).flatMap (slotChildren program settings slots)) := by
  intro ahead
  induction ahead with
  | zero =>
    intro slot hle hge _
    rw [show stop - slot = 0 by omega]
    exact .ended rfl
  | succ ahead ih =>
    intro slot hle hge hbroken
    -- Either the slot is readable, and adds what it has, or it is the first that is
    -- not.
    rcases Nat.lt_or_ge slot stop with hlt | hstop
    · have hmore : stop - slot = stop - (slot + 1) + 1 := by omega
      have hhere := hread slot hlt
      have hrest := ih (slot + 1) hlt (by omega) (fun h => hbroken (by omega))
      rw [hmore, List.range'_succ, List.flatMap_cons]
      rw [occupiedBelow_succ] at hrest
      cases hocc : occupied program settings slots slot with
      | false =>
        rw [slotChildren_of_vacant hocc, List.nil_append]
        rw [hocc] at hrest
        exact .vacant (readSlot_of_vacant hhere hocc) hrest
      | true =>
        obtain ⟨key, value, hkey, hvalue, hslot⟩ := readSlot_of_occupied hhere hocc
        rw [slotChildren_of_occupied hocc hkey hvalue]
        rw [hocc] at hrest
        exact .entry hslot hrest
    · have heq : slot = stop := Nat.le_antisymm hle hstop
      subst heq
      obtain ⟨fault, hslot⟩ := readSlot_of_unreadable (hbroken (by omega))
      rw [Nat.sub_self]
      exact .broken hslot

/-- The walk from the first slot on. -/
theorem yields_listing (program : Program) (settings : Settings) (slots : Value) (capacity : Nat) :
    Cursor.Yields program settings (.dict (walking slots 0 capacity 0))
      (listing program settings slots capacity) := by
  have hstop : firstUnreadable program settings slots capacity ≤ 0 + capacity := by
    rw [Nat.zero_add]
    exact firstUnreadable_le program settings slots capacity
  have hwalk := yields_walking (fun i hi => readable_of_lt_firstUnreadable hi) capacity 0
    (Nat.zero_le _) hstop
    (fun hlt => readable_firstUnreadable (by rwa [Nat.zero_add] at hlt))
  rwa [Nat.sub_zero, ← List.range_eq_range'] at hwalk

/-- Each slot before the first that is not readable has two children at most. -/
theorem length_listing_le_stop (program : Program) (settings : Settings) (slots : Value)
    (capacity : Nat) :
    (listing program settings slots capacity).length ≤
      2 * firstUnreadable program settings slots capacity := by
  unfold listing
  induction firstUnreadable program settings slots capacity with
  | zero => exact Nat.le_refl 0
  | succ n ih =>
    have hlast := length_slotChildren_le program settings slots n
    rw [List.range_succ, List.flatMap_append, List.length_append, List.flatMap_singleton]
    omega

/-- There are two children for each slot at most. -/
theorem length_listing_le (program : Program) (settings : Settings) (slots : Value)
    (capacity : Nat) : (listing program settings slots capacity).length ≤ 2 * capacity := by
  have hlist := length_listing_le_stop program settings slots capacity
  have hstop := firstUnreadable_le program settings slots capacity
  omega

/-! ## The whole dictionary -/

/-- A cursor before the first child yields the listing of the slots that the
dictionary says it has. -/
theorem yields_fresh_of_opens {subject : Value} {capacity : Int}
    (h : Opens program subject .capacity .slots slots capacity) :
    Cursor.Yields program settings (.dict (fresh subject))
      (listing program settings slots capacity.toNat) := by
  refine .congr ?_ (yields_listing program settings slots capacity.toNat)
  rw [Cursor.next_dict, Cursor.next_dict, value_next_fresh_of_opens h]

/-- A dictionary that does not open has no children. -/
theorem yields_fresh_of_not_opens {subject : Value}
    (h : ∀ slots capacity, ¬ Opens program subject .capacity .slots slots capacity) :
    Cursor.Yields program settings (.dict (fresh subject)) [] := by
  have answer : (Cursor.next program settings (.dict (fresh subject))).value =
      (none, .dict finished) := by
    rw [Cursor.next_dict, value_next_fresh_of_not_opens h]
  exact .ended answer

/-- A capacity is read as a number of eight bytes, so that the entries can be
counted. -/
theorem length_listing_le_of_opens {subject : Value} {capacity : Int}
    (h : Opens program subject .capacity .slots slots capacity) :
    (listing program settings slots capacity.toNat).length ≤ addressLimit := by
  obtain ⟨body, addr, -, hcapacity, -⟩ := h
  have hlt := Program.readCount_lt hcapacity
  have hlen := length_listing_le program settings slots capacity.toNat
  omega

/-- **The walk over a dictionary is exact.** If the dictionary opens, its children
are the listing of its slots: they come one with each call, and nothing comes after
them. If it does not open, or its capacity is not positive, it has none. -/
theorem drain_eq_listing (program : Program) (settings : Settings) (subject : Value)
    (key value : String) :
    (∀ slots capacity, Opens program subject .capacity .slots slots capacity →
      Cursor.Yields program settings (Printer.cursor ⟨subject, .dict key value⟩)
        (listing program settings slots capacity.toNat) ∧
      ((Printer.cursor ⟨subject, .dict key value⟩).drain program settings).value =
        listing program settings slots capacity.toNat) ∧
    ((∀ slots capacity, Opens program subject .capacity .slots slots capacity → capacity ≤ 0) →
      Cursor.Yields program settings (Printer.cursor ⟨subject, .dict key value⟩) [] ∧
      ((Printer.cursor ⟨subject, .dict key value⟩).drain program settings).value = []) := by
  constructor
  · intro slots capacity h
    have hyields : Cursor.Yields program settings (.dict (fresh subject))
        (listing program settings slots capacity.toNat) := yields_fresh_of_opens h
    exact ⟨hyields, hyields.drain_eq (length_listing_le_of_opens h)⟩
  · intro hempty
    have hyields : Cursor.Yields program settings (.dict (fresh subject)) [] := by
      by_cases hopens : ∃ slots capacity, Opens program subject .capacity .slots slots capacity
      · -- No slots are left to go over.
        obtain ⟨slots, capacity, h⟩ := hopens
        have hyields : Cursor.Yields program settings (.dict (fresh subject))
            (listing program settings slots capacity.toNat) := yields_fresh_of_opens h
        rwa [Int.toNat_eq_zero.mpr (hempty slots capacity h)] at hyields
      · exact yields_fresh_of_not_opens fun slots capacity h => hopens ⟨slots, capacity, h⟩
    exact ⟨hyields, hyields.drain_eq (Nat.zero_le _)⟩

/-! ### A table with a hole

Three slots are promised and two are there: a vacant one and one that is
occupied. -/

/-- The types of a dictionary of integers. -/
def holeTypes : TypeTable :=
  let types := TypeTable.empty.add (TypeTable.primitiveEntry "i64" 8 { signed := true })
  let types := types.add (types.layOut "Slot" false [⟨"st", 1⟩, ⟨"key", 1⟩, ⟨"value", 1⟩])
  let types := types.add (TypeTable.pointerEntry 2)
  types.add (types.layOut "Dict" false [⟨"len", 1⟩, ⟨"cap", 1⟩, ⟨"e", 3⟩])

/-- The dictionary's struct, and its slots. -/
def holeMemory : Snapshot where
  regions :=
    [⟨0x2000, [0, 5, 6, 1, 7, 8].flatMap (LittleEndian.toBytes 8)⟩,
      ⟨0x1000, [9, 3, 0x2000].flatMap (LittleEndian.toBytes 8)⟩]

def holeProgram : Program := ⟨holeTypes, holeMemory.memory⟩

theorem opens_hole :
    Opens holeProgram (.stored 0x1000 4) .capacity .slots (.stored 0x1010 3) 3 :=
  ⟨.stored 0x1000 4, 0x2000, .itself rfl, rfl, rfl, rfl, by decide⟩

/-- The entry before the hole is shown, whatever number of entries the dictionary
states. -/
theorem drain_hole :
    ((Printer.cursor ⟨.stored 0x1000 4, .dict "i64" "i64"⟩).drain holeProgram {}).value =
      [⟨"[0].key", .stored 0x2020 1⟩, ⟨"[0].value", .stored 0x2028 1⟩] := by
  have hwalk := (drain_eq_listing holeProgram {} (.stored 0x1000 4) "i64" "i64").1 _ _ opens_hole
  exact hwalk.2

end HeapLens.DictCursor
