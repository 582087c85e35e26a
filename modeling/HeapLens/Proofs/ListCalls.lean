import HeapLens.Proofs.CursorCalls

/-!
# Lists in a program that changes

> `calls_walking`: whatever programs the calls find, the children are elements of
> one buffer under consecutive labels, each as its call finds it, and then nothing.

The first call alone reads the list's struct. Behind it the calls see the programs
through the buffer's elements only (`next_congr`), so that a length that changes has
no effect.
-/

namespace HeapLens

open Cursor (EndsAt)

namespace ListCursor

variable {settings : Settings} {data : Value}

/-- The first `count` calls give elements of `data` from `index` on, each as its
call finds it. -/
def Shows (data : Value) (index count : Nat) (programs : List Program)
    (calls : List (Traced (Option Child))) : Prop :=
  ∀ i, i < count → ∃ program call element,
    programs[i]? = some program ∧ calls[i]? = some call ∧
    (program.index data (index + i)).result = .ok element ∧
    call.value = some ⟨s!"[{index + i}]", element⟩

theorem shows_zero (data : Value) (index : Nat) (programs : List Program)
    (calls : List (Traced (Option Child))) : Shows data index 0 programs calls := by
  intro i hi
  omega

/-- One more element in front, found by the program of its call. -/
theorem Shows.cons {index count : Nat} {programs : List Program}
    {calls : List (Traced (Option Child))} (h : Shows data (index + 1) count programs calls)
    {program : Program} {call : Traced (Option Child)} {element : Value}
    (found : (program.index data index).result = .ok element)
    (given : call.value = some ⟨s!"[{index}]", element⟩) :
    Shows data index (count + 1) (program :: programs) (call :: calls) := by
  intro i hi
  cases i with
  | zero => exact ⟨program, call, element, rfl, rfl, found, given⟩
  | succ i =>
    have hrest := h i (by omega)
    rw [Nat.add_right_comm] at hrest
    exact hrest

/-- Only the child that a call gives counts, and not what happened on the way. -/
theorem Shows.congr {index count : Nat} {programs : List Program}
    {calls : List (Traced (Option Child))} {call call' : Traced (Option Child)}
    (h : Shows data index count programs (call :: calls)) (same : call'.value = call.value) :
    Shows data index count programs (call' :: calls) := by
  intro i hi
  obtain ⟨program, found, element, hprogram, hcall, helement, hvalue⟩ := h i hi
  cases i with
  | zero =>
    have hfirst : call = found := Option.some.inj hcall
    subst hfirst
    exact ⟨program, call', element, hprogram, rfl, helement, same.trans hvalue⟩
  | succ i => exact ⟨program, found, element, hprogram, hcall, helement, hvalue⟩

/-- What a call on a walking cursor can do: give an element and stand behind it, or
end. -/
theorem advance_cases (program : Program) (data : Value) (index stop : Nat) :
    (∃ element, index < stop ∧ (program.index data index).result = .ok element ∧
      (advance program data index stop).value =
        (some ⟨s!"[{index}]", element⟩, walking data (index + 1) stop)) ∨
    (advance program data index stop).value = (none, finished) := by
  by_cases room : index < stop
  · cases found : (program.index data index).result with
    | ok element =>
      left
      exact ⟨element, room, rfl, congrArg Traced.value (advance_of_element room found)⟩
    | error fault =>
      right
      exact congrArg Traced.value (advance_of_fault room found)
  · right
    exact congrArg Traced.value (advance_of_stop (Nat.le_of_not_lt room))

/-- The invariant of a list's calls: from element `index` on, no more than the
elements before `stop`, and then nothing. -/
theorem calls_walking (settings : Settings) (data : Value) (stop : Nat) :
    ∀ (programs : List Program) (index : Nat), ∃ count, count ≤ stop - index ∧
      Shows data index count programs
        ((Cursor.list (walking data index stop)).calls settings programs) ∧
      EndsAt count ((Cursor.list (walking data index stop)).calls settings programs) := by
  intro programs
  -- Each call has its own program, so the induction is on the programs and moves
  -- the index along.
  induction programs with
  | nil =>
    intro index
    exact ⟨0, Nat.zero_le _, shows_zero data index _ _, Cursor.endsAt_nil 0⟩
  | cons program later ih =>
    intro index
    rcases advance_cases program data index stop with ⟨element, room, found, hvalue⟩ | hend
    · obtain ⟨count, hcount, hshows, hends⟩ := ih (index + 1)
      have answer : ((Cursor.list (walking data index stop)).next program settings).value =
          (some ⟨s!"[{index}]", element⟩, .list (walking data (index + 1) stop)) := by
        rw [Cursor.next_list, next, hvalue]
      refine ⟨count + 1, by omega, ?_, ?_⟩
      · rw [Cursor.calls, answer]
        exact hshows.cons found (by rw [Traced.value_map, answer])
      · rw [Cursor.calls, answer]
        exact hends.cons _
    · have answer : ((Cursor.list (walking data index stop)).next program settings).value =
          (none, .list finished) := by
        rw [Cursor.next_list, next, hend]
      exact ⟨0, Nat.zero_le _, shows_zero data index _ _,
        Cursor.endsAt_of_finished answer Cursor.calls_list_finished later⟩

/-- A cursor that has the buffer `data` in hand, or none any more. -/
inductive Over (data : Value) : Cursor → Prop where
  | walking (index stop : Nat) : Over data (.list (walking data index stop))
  | finished : Over data (.list finished)

/-- A cursor keeps its buffer for as long as it walks. -/
theorem Over.next {program : Program} {cursor : Cursor} (h : Over data cursor) :
    Over data (cursor.next program settings).value.2 := by
  cases h with
  | walking index stop =>
    rw [Cursor.next_list, ListCursor.next]
    rcases advance_cases program data index stop with ⟨element, -, -, hvalue⟩ | hend
    · rw [hvalue]
      exact .walking (index + 1) stop
    · rw [hend]
      exact .finished
  | finished => exact .finished

/-- With its buffer in hand a cursor sees a program through the elements of that
buffer only. -/
theorem next_congr {program program' : Program} {cursor : Cursor}
    (same : ∀ i, program.index data i = program'.index data i) (h : Over data cursor) :
    cursor.next program settings = cursor.next program' settings := by
  cases h with
  | walking index stop =>
    have hadvance : advance program data index stop = advance program' data index stop := by
      unfold advance
      rw [same index]
    rw [Cursor.next_list, Cursor.next_list, next, next, hadvance]
  | finished => rfl

/-- The calls on a list that opens. Its length is the one that the first call read;
what the others find there has no part in it. -/
theorem calls_fresh_of_opens {first : Program} {subject : Value} {length : Int}
    (h : Opens first subject .length .data data length) (later : List Program) :
    ∃ count, count ≤ min length.toNat settings.maxListChildren ∧
      Shows data 0 count (first :: later)
        ((Cursor.list (fresh subject)).calls settings (first :: later)) ∧
      EndsAt count ((Cursor.list (fresh subject)).calls settings (first :: later)) := by
  obtain ⟨count, hcount, hshows, hends⟩ := calls_walking settings data
    (min length.toNat settings.maxListChildren) (first :: later) 0
  have same : ((Cursor.list (fresh subject)).next first settings).value =
      ((Cursor.list (walking data 0 (min length.toNat settings.maxListChildren))).next first
        settings).value := by
    rw [Cursor.next_list, Cursor.next_list, value_next_fresh_of_opens h]
  -- The first call also read the list's struct: its events are not those of a call
  -- at the start.
  obtain ⟨call, call', rest, hvalue, hfresh, hwalking⟩ := Cursor.calls_of_value_eq same later
  rw [hwalking] at hshows hends
  rw [hfresh]
  exact ⟨count, hcount, hshows.congr hvalue, hends.congr hvalue⟩

/-- A list that does not open has ended with the first call. -/
theorem calls_fresh_of_not_opens {first : Program} {subject : Value}
    (h : ∀ data length, ¬ Opens first subject .length .data data length) (later : List Program) :
    EndsAt 0 ((Cursor.list (fresh subject)).calls settings (first :: later)) := by
  have answer : ((Cursor.list (fresh subject)).next first settings).value =
      (none, .list finished) := by
    rw [Cursor.next_list, value_next_fresh_of_not_opens h]
  exact Cursor.endsAt_of_finished answer Cursor.calls_list_finished later

/-- Behind the first call, programs that agree on the buffer's elements cannot be
told apart. -/
theorem calls_fresh_congr {first : Program} {subject : Value} {length : Int}
    (h : Opens first subject .length .data data length) {later later' : List Program}
    (same : List.Forall₂ (fun program program' => ∀ i, program.index data i = program'.index data i)
      later later') :
    (Cursor.list (fresh subject)).calls settings (first :: later) =
      (Cursor.list (fresh subject)).calls settings (first :: later') := by
  have hafter : Over data ((Cursor.list (fresh subject)).next first settings).value.2 := by
    have hover : Over data ((Cursor.list (walking data 0
        (min length.toNat settings.maxListChildren))).next first settings).value.2 :=
      Over.next (.walking 0 _)
    rw [Cursor.next_list] at hover ⊢
    rwa [value_next_fresh_of_opens h]
  rw [Cursor.calls, Cursor.calls]
  show _ :: _ = _ :: _
  rw [Cursor.calls_congr Over.next next_congr same _ hafter]

/-- What the calls of a list's printer keep to, when the first of them finds
`first`. -/
structure Protocol (settings : Settings) (printer : Printer) (first : Program)
    (later : List Program) : Prop where
  /-- A list that opens gives elements in order, within the bounds that the first
  call found, and then nothing. -/
  opened : ∀ data length, Opens first printer.subject .length .data data length →
    ∃ count, count ≤ min length.toNat settings.maxListChildren ∧
      Shows data 0 count (first :: later) (printer.cursor.calls settings (first :: later)) ∧
      EndsAt count (printer.cursor.calls settings (first :: later))
  /-- Later changes have no effect but through the elements of the buffer. -/
  steady : ∀ data length, Opens first printer.subject .length .data data length → ∀ later',
    List.Forall₂ (fun program program' => ∀ i, program.index data i = program'.index data i)
      later later' →
    printer.cursor.calls settings (first :: later) = printer.cursor.calls settings (first :: later')
  closed : (∀ data length, ¬ Opens first printer.subject .length .data data length) →
    EndsAt 0 (printer.cursor.calls settings (first :: later))

/-- What the calls on a list are, by what the first of them finds. -/
theorem protocol (settings : Settings) (subject : Value) (elem : String) (first : Program)
    (later : List Program) : Protocol settings ⟨subject, .list elem⟩ first later where
  opened _ _ h := calls_fresh_of_opens h later
  steady _ _ h _ same := calls_fresh_congr h same
  closed h := calls_fresh_of_not_opens h later

end ListCursor

end HeapLens
