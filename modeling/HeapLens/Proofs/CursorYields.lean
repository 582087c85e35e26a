import HeapLens.Proofs.DictListing
import HeapLens.Proofs.ListCalls

/-!
# Cursors: every container has its children

`Yields` says of a list that a cursor gives it; here is that there is always one.
The cursor of a list gives no more than the bounds allow (`exists_yields_walking`),
and that of a dictionary gives its children in pairs of a key and a value
(`exists_pairs_of_listing`).

> `exists_yields`: the cursor of a printer gives its children, one with each call,
> and then none.

In a program that does not change there is one such list (`Yields.unique`).
-/

namespace HeapLens

variable {program : Program} {settings : Settings}

/-- The children that an entry of a map takes: its key and its value. -/
def pairChildren (pair : Child × Child) : List Child := [pair.1, pair.2]

/-- The pairs are known from the children. -/
theorem flatMap_pairChildren_inj {pairs pairs' : List (Child × Child)}
    (h : pairs.flatMap pairChildren = pairs'.flatMap pairChildren) : pairs = pairs' := by
  induction pairs generalizing pairs' with
  | nil =>
    cases pairs' with
    | nil => rfl
    | cons pair' rest' => cases h
  | cons pair rest ih =>
    cases pairs' with
    | nil => cases h
    | cons pair' rest' =>
      obtain ⟨key, value⟩ := pair
      obtain ⟨key', value'⟩ := pair'
      change key :: value :: rest.flatMap pairChildren =
        key' :: value' :: rest'.flatMap pairChildren at h
      obtain ⟨hkey, h⟩ := List.cons.inj h
      obtain ⟨hvalue, h⟩ := List.cons.inj h
      rw [hkey, hvalue, ih h]

/-! ## Lists -/

namespace ListCursor

theorem yields_nil {cursor : ListCursor}
    (hend : (cursor.next program settings).value = (none, finished)) :
    Cursor.Yields program settings (.list cursor) [] := by
  have answer : (Cursor.next program settings (.list cursor)).value = (none, .list finished) := by
    rw [Cursor.next_list, hend]
  exact .ended answer

/-- The elements before `stop` are given until one of them fails. -/
theorem exists_yields_walking (program : Program) (settings : Settings) (data : Value)
    (stop : Nat) :
    ∀ (ahead index : Nat), stop - index = ahead → ∃ children, children.length ≤ ahead ∧
      Cursor.Yields program settings (.list (walking data index stop)) children := by
  intro ahead
  -- Each child brings the index one step closer to `stop`.
  induction ahead with
  | zero =>
    intro index hleft
    have hend : advance program data index stop = ⟨(none, finished), []⟩ :=
      advance_of_stop (by omega)
    exact ⟨[], Nat.le_refl 0, yields_nil (congrArg Traced.value hend)⟩
  | succ ahead ih =>
    intro index hleft
    rcases advance_cases program data index stop with ⟨element, room, -, hvalue⟩ | hend
    · obtain ⟨children, hlength, hyields⟩ := ih (index + 1) (by omega)
      refine ⟨⟨s!"[{index}]", element⟩ :: children, Nat.succ_le_succ hlength, .child ?_ hyields⟩
      rw [Cursor.next_list, next, hvalue]
    · exact ⟨[], Nat.zero_le _, yields_nil hend⟩

/-- Every list yields some children, no more of them than there are addresses. -/
theorem exists_yields_fresh (program : Program) (settings : Settings) (subject : Value) :
    ∃ children, children.length ≤ addressLimit ∧
      Cursor.Yields program settings (.list (fresh subject)) children := by
  by_cases hopens : ∃ data length, Opens program subject .length .data data length
  · obtain ⟨data, length, h⟩ := hopens
    obtain ⟨children, hfew, hyields⟩ := exists_yields_walking program settings data
      (min length.toNat settings.maxListChildren) _ 0 rfl
    have hlt : 2 * length < addressLimit := by
      obtain ⟨body, addr, -, hlength, -⟩ := h
      exact Program.readCount_lt hlength
    refine ⟨children, by omega, hyields.congr ?_⟩
    rw [Cursor.next_list, Cursor.next_list, value_next_fresh_of_opens h]
  · have hend : (next program settings (fresh subject)).value = (none, finished) :=
      value_next_fresh_of_not_opens fun data length h => hopens ⟨data, length, h⟩
    exact ⟨[], Nat.zero_le _, yields_nil hend⟩

end ListCursor

/-! ## Dictionaries -/

namespace DictCursor

/-- A slot has a key and a value to show, or nothing. -/
theorem exists_pairs_of_slotChildren (program : Program) (settings : Settings) (slots : Value)
    (slot : Nat) :
    ∃ pairs : List (Child × Child),
      slotChildren program settings slots slot = pairs.flatMap pairChildren := by
  unfold slotChildren
  split
  · exact ⟨[(_, _)], rfl⟩
  · exact ⟨[], rfl⟩

/-- A listing is made of pairs. -/
theorem exists_pairs_of_listing (program : Program) (settings : Settings) (slots : Value)
    (capacity : Nat) :
    ∃ pairs : List (Child × Child),
      listing program settings slots capacity = pairs.flatMap pairChildren := by
  unfold listing
  induction List.range (firstUnreadable program settings slots capacity) with
  | nil => exact ⟨[], rfl⟩
  | cons slot rest ih =>
    obtain ⟨first, hfirst⟩ := exists_pairs_of_slotChildren program settings slots slot
    obtain ⟨pairs, hpairs⟩ := ih
    refine ⟨first ++ pairs, ?_⟩
    rw [List.flatMap_cons, List.flatMap_append, hfirst, hpairs]

/-- Every dictionary yields children in pairs, if any. -/
theorem exists_pairs_fresh (program : Program) (settings : Settings) (subject : Value) :
    ∃ pairs : List (Child × Child), (pairs.flatMap pairChildren).length ≤ addressLimit ∧
      Cursor.Yields program settings (.dict (fresh subject)) (pairs.flatMap pairChildren) := by
  by_cases hopens : ∃ slots capacity, Opens program subject .capacity .slots slots capacity
  · obtain ⟨slots, capacity, h⟩ := hopens
    obtain ⟨pairs, hpairs⟩ :=
      exists_pairs_of_listing program settings slots capacity.toNat
    refine ⟨pairs, ?_⟩
    rw [← hpairs]
    exact ⟨length_listing_le_of_opens h, yields_fresh_of_opens h⟩
  · exact ⟨[], Nat.zero_le _,
      yields_fresh_of_not_opens fun slots capacity h => hopens ⟨slots, capacity, h⟩⟩

end DictCursor

/-! ## Any container -/

namespace Cursor

/-- A cursor gives one list of children only. -/
theorem Yields.unique {cursor : Cursor} {children children' : List Child}
    (h : Yields program settings cursor children)
    (h' : Yields program settings cursor children') : children = children' := by
  induction h generalizing children' with
  | ended answer =>
    cases h' with
    | ended answer' => rfl
    | child answer' more =>
      rw [answer] at answer'
      cases answer'
  | child answer more ih =>
    cases h' with
    | ended answer' =>
      rw [answer] at answer'
      cases answer'
    | child answer' more' =>
      rw [answer] at answer'
      cases answer'
      rw [ih more']

/-- The children of a printer's value, few enough to be counted. -/
theorem exists_yields (program : Program) (settings : Settings) (printer : Printer) :
    ∃ children, children.length ≤ addressLimit ∧
      Yields program settings printer.cursor children := by
  obtain ⟨subject, container⟩ := printer
  cases container with
  | text =>
    have answer : (next program settings .nothing).value = (none, .nothing) := rfl
    exact ⟨[], Nat.zero_le _, .ended answer⟩
  | list elem => exact ListCursor.exists_yields_fresh program settings subject
  | dict key value =>
    obtain ⟨pairs, hfew, hyields⟩ := DictCursor.exists_pairs_fresh program settings subject
    exact ⟨pairs.flatMap pairChildren, hfew, hyields⟩

end Cursor

end HeapLens
