import HeapLens.Proofs.CursorStep

/-!
# Dictionaries: one call, slot by slot

A call on a dictionary looks at slots, one after the other, and passes over those
that are vacant. It stops in one of three ways, which `Advances` tells apart with
all that has happened by then:

> at the first slot that holds an entry; behind the last slot; or at a slot that
> cannot be read.

`advances_advance` is the only place where the slots are gone over. What a call
reads and what it leaves for the log are read off its cases.
-/

namespace HeapLens.DictCursor

section

variable (program : Program) (settings : Settings) (slots : Value)

/-- What happens on looking at `count` slots from `slot` on. -/
def slotEvents (slot count : Nat) : List Event :=
  (List.range' slot count).flatMap fun i => (readSlot program settings slots i).events

/-- The `count` slots from `slot` on can be read and hold nothing. -/
def Vacant (slot count : Nat) : Prop :=
  ∀ i, i < count → (readSlot program settings slots (slot + i)).result = .ok none

/-- What a call can come to that has `ahead` slots from `slot` on before it. -/
inductive Advances (shown slot ahead : Nat) : Traced (Option Child × DictCursor) → Prop where
  /-- Behind `passed` vacant slots there is an entry. -/
  | entry {passed left : Nat} {entry : Entry} (room : passed + left + 1 = ahead)
      (vacant : Vacant program settings slots slot passed)
      (found : (readSlot program settings slots (slot + passed)).result = .ok (some entry)) :
      Advances shown slot ahead
        ⟨(some ⟨s!"[{shown}].key", entry.key⟩,
          owing ⟨s!"[{shown}].value", entry.value⟩ slots (slot + passed + 1) left (shown + 1)),
          slotEvents program settings slots slot (passed + 1)⟩
  /-- All slots are vacant. -/
  | exhausted (vacant : Vacant program settings slots slot ahead) :
      Advances shown slot ahead ⟨(none, finished), slotEvents program settings slots slot ahead⟩
  /-- Behind `passed` vacant slots there is one that cannot be read. -/
  | broken {passed : Nat} {fault : Fault} (room : passed < ahead)
      (vacant : Vacant program settings slots slot passed)
      (found : (readSlot program settings slots (slot + passed)).result = .error fault) :
      Advances shown slot ahead
        ⟨(none, finished), slotEvents program settings slots slot (passed + 1) ++
          [.note (failureLine s!"Dict slot {slot + passed}" fault)]⟩

end

variable {program : Program} {settings : Settings} {slots : Value} {shown slot ahead : Nat}

theorem slotEvents_succ (slot count : Nat) :
    slotEvents program settings slots slot (count + 1) =
      (readSlot program settings slots slot).events ++
        slotEvents program settings slots (slot + 1) count := by
  rw [slotEvents, List.range'_succ, List.flatMap_cons]
  rfl

theorem vacant_zero (slot : Nat) : Vacant program settings slots slot 0 := by
  intro i hi
  omega

theorem Vacant.cons {count : Nat} (h : Vacant program settings slots (slot + 1) count)
    (here : (readSlot program settings slots slot).result = .ok none) :
    Vacant program settings slots slot (count + 1) := by
  intro i hi
  cases i with
  | zero => exact here
  | succ i =>
    rw [Nat.add_comm i, ← Nat.add_assoc]
    exact h i (by omega)

/-- One more vacant slot in front. -/
theorem Advances.cons {call : Traced (Option Child × DictCursor)}
    (h : Advances program settings slots shown (slot + 1) ahead call)
    (here : (readSlot program settings slots slot).result = .ok none) :
    Advances program settings slots shown slot (ahead + 1)
      ⟨call.value, (readSlot program settings slots slot).events ++ call.events⟩ := by
  -- The slot that ends the call is counted from `slot` now.
  cases h with
  | @entry passed left entry room vacant found =>
    have hslot : slot + 1 + passed = slot + (passed + 1) := by omega
    rw [hslot] at found ⊢
    rw [← slotEvents_succ]
    exact .entry (by omega) (vacant.cons here) found
  | exhausted vacant =>
    rw [← slotEvents_succ]
    exact .exhausted (vacant.cons here)
  | @broken passed fault room vacant found =>
    have hslot : slot + 1 + passed = slot + (passed + 1) := by omega
    rw [hslot] at found ⊢
    rw [← List.append_assoc, ← slotEvents_succ]
    exact .broken (by omega) (vacant.cons here) found

/-- A call comes to one of these, by induction on the slots before it. -/
theorem advances_advance (program : Program) (settings : Settings) (slots : Value) (shown : Nat) :
    ∀ ahead slot : Nat, Advances program settings slots shown slot ahead
      (advance program settings slots shown slot ahead) := by
  intro ahead
  induction ahead with
  | zero =>
    intro slot
    exact .exhausted (vacant_zero slot)
  | succ ahead ih =>
    intro slot
    have first : slotEvents program settings slots slot 1 =
        (readSlot program settings slots slot).events := List.append_nil _
    cases found : (readSlot program settings slots slot).result with
    | error fault =>
      rw [advance_of_fault found, ← first]
      exact .broken (Nat.zero_lt_succ ahead) (vacant_zero slot) found
    | ok entry? =>
      cases entry? with
      | some entry =>
        rw [advance_of_entry found, ← first]
        exact .entry (by omega) (vacant_zero slot) found
      | none =>
        rw [advance_of_vacant found]
        exact (ih (slot + 1)).cons found

end HeapLens.DictCursor
