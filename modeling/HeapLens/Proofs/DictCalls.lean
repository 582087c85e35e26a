import HeapLens.Proofs.CursorCalls
import Mathlib.Data.List.Induction

/-!
# Dictionaries in a program that changes

> `Walks`: whatever programs the calls find, the entries lie in ascending slots,
> each of them takes two calls, of which the second does not look again, and behind
> the last of them there is nothing.

That this is so is proved over two calls at a time (`calls_walking`), since a cursor
between a key and its value remembers the value and nothing else. Behind the first
call the programs are seen through the slots only (`next_congr`), so that a capacity
that changes has no effect.
-/

namespace HeapLens

open Cursor (EndsAt)

namespace DictCursor

variable {settings : Settings} {slots : Value}

/-- The calls come in pairs, one for each slot in `found`: the first gives the key
of the entry that it finds in the slot, the second the value that was found with it,
without looking again. The entries are numbered from `shown` on. -/
def Shows (settings : Settings) (slots : Value) (shown : Nat) (found : List Nat)
    (programs : List Program) (calls : List (Traced (Option Child))) : Prop :=
  ∀ k slot, found[k]? = some slot → ∃ program call entry,
    programs[2 * k]? = some program ∧ calls[2 * k]? = some call ∧
    (readSlot program settings slots slot).result = .ok (some entry) ∧
    call.value = some ⟨s!"[{shown + k}].key", entry.key⟩ ∧
    ∀ due, calls[2 * k + 1]? = some due →
      due = ⟨some ⟨s!"[{shown + k}].value", entry.value⟩, []⟩

theorem shows_nil (settings : Settings) (slots : Value) (shown : Nat) (programs : List Program)
    (calls : List (Traced (Option Child))) : Shows settings slots shown [] programs calls := by
  intro k slot hslot
  cases hslot

/-- One more pair in front. The second call of it may be missing: there are as many
calls as there are programs. -/
theorem Shows.cons {shown slot : Nat} {found : List Nat} {programs : List Program}
    {calls : List (Traced (Option Child))}
    (h : Shows settings slots (shown + 1) found programs.tail calls.tail) {program : Program}
    {key : Traced (Option Child)} {entry : Entry}
    (there : (readSlot program settings slots slot).result = .ok (some entry))
    (given : key.value = some ⟨s!"[{shown}].key", entry.key⟩)
    (next : ∀ due, calls[0]? = some due → due = ⟨some ⟨s!"[{shown}].value", entry.value⟩, []⟩) :
    Shows settings slots shown (slot :: found) (program :: programs) (key :: calls) := by
  intro k slot' hslot
  cases k with
  | zero =>
    have hsame : slot = slot' := Option.some.inj hslot
    subst hsame
    exact ⟨program, key, entry, rfl, rfl, there, given, next⟩
  | succ k =>
    have hrest := h k slot' hslot
    rw [Nat.add_right_comm, List.getElem?_tail, List.getElem?_tail, List.getElem?_tail] at hrest
    exact hrest

/-- Only the child that a call gives counts, and not what happened on the way. -/
theorem Shows.congr {shown : Nat} {found : List Nat} {programs : List Program}
    {calls : List (Traced (Option Child))} {call call' : Traced (Option Child)}
    (h : Shows settings slots shown found programs (call :: calls))
    (same : call'.value = call.value) :
    Shows settings slots shown found programs (call' :: calls) := by
  intro k slot hslot
  obtain ⟨program, key, entry, hprogram, hcall, hentry, hvalue, hdue⟩ := h k slot hslot
  cases k with
  | zero =>
    have hfirst : call = key := Option.some.inj hcall
    subst hfirst
    exact ⟨program, call', entry, hprogram, rfl, hentry, same.trans hvalue, hdue⟩
  | succ k => exact ⟨program, key, entry, hprogram, hcall, hentry, hvalue, hdue⟩

/-- What a call on a walking cursor can do: come to an entry, and stand behind its
slot, or end. -/
theorem advance_cases (program : Program) (settings : Settings) (slots : Value) (shown : Nat) :
    ∀ (ahead slot : Nat),
      (∃ passed left entry, passed + left + 1 = ahead ∧
        (readSlot program settings slots (slot + passed)).result = .ok (some entry) ∧
        (advance program settings slots shown slot ahead).value =
          (some ⟨s!"[{shown}].key", entry.key⟩,
            owing ⟨s!"[{shown}].value", entry.value⟩ slots (slot + passed + 1) left (shown + 1))) ∨
      (advance program settings slots shown slot ahead).value = (none, finished) := by
  intro ahead
  induction ahead with
  | zero =>
    intro slot
    right
    rfl
  | succ ahead ih =>
    intro slot
    cases found : (readSlot program settings slots slot).result with
    | error fault =>
      right
      exact congrArg Traced.value (advance_of_fault found)
    | ok entry? =>
      cases entry? with
      | some entry =>
        left
        refine ⟨0, ahead, entry, by omega, found, ?_⟩
        rw [advance_of_entry found]
      | none =>
        rw [advance_of_vacant found]
        rcases ih (slot + 1) with ⟨passed, left, entry, hsum, hentry, hvalue⟩ | hend
        · left
          have hslot : slot + 1 + passed = slot + (passed + 1) := by omega
          rw [hslot] at hentry hvalue
          exact ⟨passed + 1, left, entry, by omega, hentry, hvalue⟩
        · right
          exact hend

/-- The invariant of a dictionary's calls, from slot `slot` on: the entries lie in
ascending slots among those ahead, they come in pairs, and behind the last pair
there is nothing. -/
structure Walks (settings : Settings) (slots : Value) (slot ahead shown : Nat)
    (programs : List Program) (calls : List (Traced (Option Child))) (found : List Nat) : Prop where
  ascending : found.Pairwise (· < ·)
  within : ∀ x ∈ found, slot ≤ x ∧ x < slot + ahead
  few : found.length ≤ ahead
  shows : Shows settings slots shown found programs calls
  ends : EndsAt (2 * found.length) calls

/-- A walk that is over has found nothing. -/
theorem Walks.of_ended {slot ahead shown : Nat} {programs : List Program}
    {calls : List (Traced (Option Child))} (h : EndsAt 0 calls) :
    Walks settings slots slot ahead shown programs calls [] where
  ascending := .nil
  within := by simp
  few := Nat.zero_le _
  shows := shows_nil settings slots shown programs calls
  ends := h

/-- The value that is due comes with the next call, if there is one, and the walk
goes on behind it. -/
theorem Walks.of_entry {program : Program} {later : List Program}
    {slot ahead passed left shown : Nat} {entry : Entry} {found : List Nat}
    (hsum : passed + left + 1 = ahead)
    (hentry : (readSlot program settings slots (slot + passed)).result = .ok (some entry))
    (hnext : ((Cursor.dict (walking slots slot ahead shown)).next program settings).value =
      (some ⟨s!"[{shown}].key", entry.key⟩,
        .dict (owing ⟨s!"[{shown}].value", entry.value⟩ slots (slot + passed + 1) left
          (shown + 1))))
    (h : Walks settings slots (slot + passed + 1) left (shown + 1) later.tail
      ((Cursor.dict (walking slots (slot + passed + 1) left (shown + 1))).calls settings later.tail)
      found) :
    Walks settings slots slot ahead shown (program :: later)
      ((Cursor.dict (walking slots slot ahead shown)).calls settings (program :: later))
      ((slot + passed) :: found) := by
  have hcalls : (Cursor.dict (walking slots slot ahead shown)).calls settings (program :: later) =
      (Prod.fst <$> (Cursor.dict (walking slots slot ahead shown)).next program settings) ::
        (Cursor.dict (owing ⟨s!"[{shown}].value", entry.value⟩ slots (slot + passed + 1) left
          (shown + 1))).calls settings later := by
    rw [Cursor.calls, hnext]
  rw [hcalls]
  refine ⟨?_, ?_, ?_, ?_, ?_⟩
  · refine List.pairwise_cons.mpr ⟨?_, h.ascending⟩
    intro x hx
    have := (h.within x hx).1
    omega
  · intro x hx
    rcases List.mem_cons.mp hx with rfl | hx
    · omega
    · have := h.within x hx
      omega
  · have := h.few
    rw [List.length_cons]
    omega
  · refine Shows.cons ?_ hentry (by rw [Traced.value_map, hnext]) ?_
    · cases later with
      | nil => exact h.shows
      | cons second later => exact h.shows
    · intro due hdue
      cases later with
      | nil => cases hdue
      | cons second later => exact (Option.some.inj hdue).symm
  · refine EndsAt.cons ?_ _
    cases later with
    | nil => exact Cursor.endsAt_nil _
    | cons second later => exact h.ends.cons _

/-- Whatever programs the calls find, they are those of a walk in ascending order of
the slots. -/
theorem calls_walking (settings : Settings) (slots : Value) :
    ∀ (programs : List Program) (slot ahead shown : Nat), ∃ found,
      Walks settings slots slot ahead shown programs
        ((Cursor.dict (walking slots slot ahead shown)).calls settings programs) found := by
  -- One call either ends the walk or comes to an entry; `tail` is what follows its
  -- two calls.
  have step : ∀ (program : Program) (later : List Program),
      (∀ slot ahead shown, ∃ found, Walks settings slots slot ahead shown later.tail
        ((Cursor.dict (walking slots slot ahead shown)).calls settings later.tail) found) →
      ∀ slot ahead shown, ∃ found, Walks settings slots slot ahead shown (program :: later)
        ((Cursor.dict (walking slots slot ahead shown)).calls settings (program :: later))
        found := by
    intro program later ih slot ahead shown
    rcases advance_cases program settings slots shown ahead slot with
      ⟨passed, left, entry, hsum, hentry, hvalue⟩ | hend
    · obtain ⟨found, h⟩ := ih (slot + passed + 1) left (shown + 1)
      refine ⟨(slot + passed) :: found, .of_entry hsum hentry ?_ h⟩
      rw [Cursor.next_dict, next, hvalue]
    · refine ⟨[], .of_ended ?_⟩
      have answer : ((Cursor.dict (walking slots slot ahead shown)).next program settings).value =
          (none, .dict finished) := by
        rw [Cursor.next_dict, next, hend]
      exact Cursor.endsAt_of_finished answer Cursor.calls_dict_finished later
  intro programs
  induction programs using List.twoStepInduction with
  | nil =>
    intro slot ahead shown
    exact ⟨[], .of_ended (Cursor.endsAt_nil 0)⟩
  | singleton program =>
    exact step program [] fun slot ahead shown => ⟨[], .of_ended (Cursor.endsAt_nil 0)⟩
  | cons_cons program second later ih _ => exact step program (second :: later) ih

/-- A cursor that has the table `slots` in hand, or none any more. -/
inductive Over (slots : Value) : Cursor → Prop where
  | walking (slot ahead shown : Nat) : Over slots (.dict (walking slots slot ahead shown))
  | owing (due : Child) (slot ahead shown : Nat) :
      Over slots (.dict (owing due slots slot ahead shown))
  | finished : Over slots (.dict finished)

/-- Programs that agree on the slots are passed over in the same way. -/
theorem advance_congr {program program' : Program}
    (same : ∀ i, readSlot program settings slots i = readSlot program' settings slots i)
    (shown : Nat) : ∀ ahead slot,
      advance program settings slots shown slot ahead =
        advance program' settings slots shown slot ahead := by
  intro ahead
  induction ahead with
  | zero =>
    intro slot
    rfl
  | succ ahead ih =>
    intro slot
    rw [advance, advance, same slot, ih (slot + 1)]

/-- A cursor keeps its table for as long as it walks. -/
theorem Over.next {program : Program} {cursor : Cursor} (h : Over slots cursor) :
    Over slots (cursor.next program settings).value.2 := by
  cases h with
  | walking slot ahead shown =>
    rw [Cursor.next_dict, DictCursor.next]
    rcases advance_cases program settings slots shown ahead slot with
      ⟨passed, left, entry, -, -, hvalue⟩ | hend
    · rw [hvalue]
      exact .owing _ _ _ _
    · rw [hend]
      exact .finished
  | owing due slot ahead shown => exact .walking slot ahead shown
  | finished => exact .finished

/-- With its table in hand a cursor sees a program through the slots of that table
only. -/
theorem next_congr {program program' : Program} {cursor : Cursor}
    (same : ∀ i, readSlot program settings slots i = readSlot program' settings slots i)
    (h : Over slots cursor) : cursor.next program settings = cursor.next program' settings := by
  cases h with
  | walking slot ahead shown =>
    rw [Cursor.next_dict, Cursor.next_dict, next, next, advance_congr same]
  | owing due slot ahead shown => rfl
  | finished => rfl

/-- The calls on a dictionary that opens. Its capacity is the one that the first
call read; what the others find there has no part in it. -/
theorem calls_fresh_of_opens {first : Program} {subject : Value} {capacity : Int}
    (h : Opens first subject .capacity .slots slots capacity) (later : List Program) :
    ∃ found, Walks settings slots 0 capacity.toNat 0 (first :: later)
      ((Cursor.dict (fresh subject)).calls settings (first :: later)) found := by
  obtain ⟨found, hwalk⟩ := calls_walking settings slots (first :: later) 0 capacity.toNat 0
  have same : ((Cursor.dict (fresh subject)).next first settings).value =
      ((Cursor.dict (walking slots 0 capacity.toNat 0)).next first settings).value := by
    rw [Cursor.next_dict, Cursor.next_dict, value_next_fresh_of_opens h]
  obtain ⟨call, call', rest, hvalue, hfresh, hwalking⟩ := Cursor.calls_of_value_eq same later
  rw [hwalking] at hwalk
  rw [hfresh]
  exact ⟨found, hwalk.ascending, hwalk.within, hwalk.few, hwalk.shows.congr hvalue,
    hwalk.ends.congr hvalue⟩

/-- A dictionary that does not open has ended with the first call. -/
theorem calls_fresh_of_not_opens {first : Program} {subject : Value}
    (h : ∀ slots capacity, ¬ Opens first subject .capacity .slots slots capacity)
    (later : List Program) :
    EndsAt 0 ((Cursor.dict (fresh subject)).calls settings (first :: later)) := by
  have answer : ((Cursor.dict (fresh subject)).next first settings).value =
      (none, .dict finished) := by
    rw [Cursor.next_dict, value_next_fresh_of_not_opens h]
  exact Cursor.endsAt_of_finished answer Cursor.calls_dict_finished later

/-- Behind the first call, programs that agree on the slots cannot be told apart. -/
theorem calls_fresh_congr {first : Program} {subject : Value} {capacity : Int}
    (h : Opens first subject .capacity .slots slots capacity) {later later' : List Program}
    (same : List.Forall₂ (fun program program' =>
      ∀ i, readSlot program settings slots i = readSlot program' settings slots i) later later') :
    (Cursor.dict (fresh subject)).calls settings (first :: later) =
      (Cursor.dict (fresh subject)).calls settings (first :: later') := by
  have hafter : Over slots ((Cursor.dict (fresh subject)).next first settings).value.2 := by
    have hover : Over slots ((Cursor.dict (walking slots 0 capacity.toNat 0)).next first
        settings).value.2 := Over.next (.walking 0 _ 0)
    rw [Cursor.next_dict] at hover ⊢
    rwa [value_next_fresh_of_opens h]
  rw [Cursor.calls, Cursor.calls]
  show _ :: _ = _ :: _
  rw [Cursor.calls_congr Over.next next_congr same _ hafter]

/-- What the calls of a dictionary's printer keep to, when the first of them finds
`first`. -/
structure Protocol (settings : Settings) (printer : Printer) (first : Program)
    (later : List Program) : Prop where
  /-- A dictionary that opens gives pairs of key and value from ascending slots,
  within the capacity that the first call found, and then nothing. -/
  opened : ∀ slots capacity, Opens first printer.subject .capacity .slots slots capacity →
    ∃ found, Walks settings slots 0 capacity.toNat 0 (first :: later)
      (printer.cursor.calls settings (first :: later)) found
  /-- Later changes have no effect but through the slots of the table. -/
  steady : ∀ slots capacity, Opens first printer.subject .capacity .slots slots capacity →
    ∀ later', List.Forall₂ (fun program program' =>
      ∀ i, readSlot program settings slots i = readSlot program' settings slots i) later later' →
    printer.cursor.calls settings (first :: later) = printer.cursor.calls settings (first :: later')
  closed : (∀ slots capacity, ¬ Opens first printer.subject .capacity .slots slots capacity) →
    EndsAt 0 (printer.cursor.calls settings (first :: later))

/-- What the calls on a dictionary are, by what the first of them finds. -/
theorem protocol (settings : Settings) (subject : Value) (key value : String) (first : Program)
    (later : List Program) : Protocol settings ⟨subject, .dict key value⟩ first later where
  opened _ _ h := calls_fresh_of_opens h later
  steady _ _ h _ same := calls_fresh_congr h same
  closed h := calls_fresh_of_not_opens h later

end DictCursor

end HeapLens
