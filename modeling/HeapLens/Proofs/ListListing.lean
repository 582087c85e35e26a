import HeapLens.Memory.Snapshot
import HeapLens.Proofs.CursorYields
import HeapLens.Types.Layout
import Mathlib.Order.Bounds.Defs

/-!
# Lists: the walk is exact

What a list shows is defined here without a cursor. The elements of a buffer lie one
behind the other, `fitting` of them have an address, and `elements` are the children
that they make.

The walk is tied to it by one invariant:

> `yields_walking`: a cursor before element `index` yields the elements from `index`
> on, up to the bound that the list and the settings set, or to where the addresses
> end.

Memory is asked for the buffer's address with each child, and answers the same each
time. The elements themselves are not read, so it does not matter whether they are
mapped.
-/

namespace HeapLens.ListCursor

/-! ## The elements of a buffer -/

/-- The first `count` elements of a buffer have addresses. -/
def Fit (base stride count : Nat) : Prop := ∀ i, i < count → base + i * stride < addressLimit

/-- How many of the first `bound` elements have addresses: those before the first
that has none. -/
def fitting (base stride bound : Nat) : Nat :=
  (List.range bound).findIdx fun i => addressLimit ≤ base + i * stride

/-- The element of a buffer at `i`, as a child. -/
def bufferChild (base stride : Nat) (elem : TypeId) (i : Nat) : Child :=
  ⟨s!"[{i}]", .stored (base + i * stride) elem⟩

/-- The first `count` elements of a buffer. -/
def elements (base stride : Nat) (elem : TypeId) (count : Nat) : List Child :=
  (List.range count).map (bufferChild base stride elem)

variable {base stride bound count : Nat}

theorem fitting_le (base stride bound : Nat) : fitting base stride bound ≤ bound := by
  have hle : (List.range bound).findIdx (fun i => addressLimit ≤ base + i * stride) ≤
      (List.range bound).length := List.findIdx_le_length
  rwa [List.length_range] at hle

theorem fit_fitting (base stride bound : Nat) : Fit base stride (fitting base stride bound) := by
  intro i hi
  have hnot := List.not_of_lt_findIdx hi
  simpa using hnot

/-- One more would begin behind the last address. -/
theorem not_fits_fitting (h : fitting base stride bound < bound) :
    addressLimit ≤ base + fitting base stride bound * stride := by
  have hlt : (List.range bound).findIdx (fun i => addressLimit ≤ base + i * stride) <
      (List.range bound).length := by rwa [List.length_range]
  have hhere := List.findIdx_getElem (w := hlt)
  rw [List.getElem_range] at hhere
  show addressLimit ≤ base + List.findIdx _ _ * stride
  simpa using hhere

/-- No more elements fit. -/
theorem le_fitting (hbound : count ≤ bound) (hfit : Fit base stride count) :
    count ≤ fitting base stride bound := by
  by_contra hmore
  have hhere := hfit (fitting base stride bound) (by omega)
  have hlt : fitting base stride bound < bound := by omega
  have hover := not_fits_fitting hlt
  omega

/-- The search finds the greatest number of elements that fit. -/
theorem isGreatest_fitting (base stride bound : Nat) :
    IsGreatest {count | count ≤ bound ∧ Fit base stride count} (fitting base stride bound) :=
  ⟨⟨fitting_le base stride bound, fit_fitting base stride bound⟩, fun _ h => le_fitting h.1 h.2⟩

/-- If all elements fit, none is left out. -/
theorem fitting_eq_of_fit (h : Fit base stride bound) : fitting base stride bound = bound :=
  Nat.le_antisymm (fitting_le base stride bound) (le_fitting (Nat.le_refl bound) h)

theorem length_elements (base stride : Nat) (elem : TypeId) (count : Nat) :
    (elements base stride elem count).length = count := by
  rw [elements, List.length_map, List.length_range]

/-! ## One element -/

variable {program : Program} {settings : Settings} {data : Value} {target : TypeId}
  {reference : Bool}

/-- The buffer of a list whose elements can be told apart. -/
structure Buffer (program : Program) (data : Value) (base : Nat) (target : TypeId) : Prop where
  pointer : ∃ reference, program.shape data = .pointer target reference
  read : (program.readPointer data).result = .ok base
  notNull : base ≠ 0
  sized : 0 < program.types.sizeOf target

/-- An element is counted from the address of the buffer, and nothing else of the
buffer matters. -/
theorem Buffer.result_index (h : Buffer program data base target) (i : Nat) :
    (program.index data i).result = program.elementAt base target i := by
  obtain ⟨reference, shape⟩ := h.pointer
  rw [Program.result_index_of_pointer shape, h.read]
  rfl

theorem Buffer.index_of_fits (h : Buffer program data base target) {i : Nat}
    (fits : base + i * program.types.sizeOf target < addressLimit) :
    (program.index data i).result =
      .ok (.stored (base + i * program.types.sizeOf target) target) := by
  rw [h.result_index]
  exact Program.elementAt_eq_ok_iff.mpr ⟨h.notNull, Nat.ne_of_gt h.sized, fits, rfl⟩

theorem Buffer.index_of_overflow (h : Buffer program data base target) {i : Nat}
    (beyond : addressLimit ≤ base + i * program.types.sizeOf target) :
    ∃ fault, (program.index data i).result = .error fault := by
  cases found : (program.index data i).result with
  | error fault => exact ⟨fault, rfl⟩
  | ok w =>
    rw [h.result_index] at found
    obtain ⟨-, -, fits, -⟩ := Program.elementAt_eq_ok_iff.mp found
    exact absurd fits (Nat.not_lt_of_le beyond)

/-- Elements of size zero are not given. -/
theorem index_ne_ok_of_no_stride {base i : Nat} {w : Value}
    (read : (program.readPointer data).result = .ok base)
    (unsized : ∀ target reference, program.shape data = .pointer target reference →
      program.types.sizeOf target = 0) : (program.index data i).result ≠ .ok w := by
  intro found
  cases shape : program.shape data with
  | pointer target reference =>
    rw [Program.result_index_of_pointer shape, read] at found
    obtain ⟨-, sized, -⟩ := Program.elementAt_eq_ok_iff.mp found
    exact sized (unsized target reference shape)
  | array elem length => exact absurd shape (Program.shape_ne_array_of_readPointer read elem length)
  | unknown | primitive traits | record record | typedef target =>
    unfold Program.index at found
    rw [shape] at found
    cases found

/-! ## The walk -/

/-- The invariant of the walk, along the elements that are left. -/
theorem yields_walking (settings : Settings) (h : Buffer program data base target) {stop : Nat}
    (fit : Fit base (program.types.sizeOf target) stop) (within : stop ≤ bound)
    (last : stop < bound → addressLimit ≤ base + stop * program.types.sizeOf target) :
    ∀ ahead index : Nat, index + ahead = stop →
      Cursor.Yields program settings (.list (walking data index bound))
        ((List.range' index ahead).map
          (bufferChild base (program.types.sizeOf target) target)) := by
  intro ahead
  induction ahead with
  | zero =>
    intro index hindex
    have hindex : index = stop := hindex
    subst hindex
    refine yields_nil ?_
    -- Either no more elements are wanted, or the next one has no address.
    rcases Nat.lt_or_ge index bound with room | full
    · obtain ⟨fault, found⟩ := h.index_of_overflow (last room)
      exact congrArg Traced.value (advance_of_fault room found)
    · exact congrArg Traced.value (advance_of_stop full)
  | succ ahead ih =>
    intro index hindex
    have room : index < bound := by omega
    have found := h.index_of_fits (fit index (by omega))
    have hrest := ih (index + 1) (by omega)
    rw [List.range'_succ, List.map_cons]
    refine .child ?_ hrest
    rw [Cursor.next_list, next, advance_of_element room found]
    rfl

/-- A walk gives the elements that fit, and ends at the first one that does not. -/
theorem yields_elements (settings : Settings) (h : Buffer program data base target) (bound : Nat) :
    Cursor.Yields program settings (.list (walking data 0 bound))
      (elements base (program.types.sizeOf target) target
        (fitting base (program.types.sizeOf target) bound)) := by
  have hwalk := yields_walking settings h (fit_fitting _ _ bound)
    (fitting_le _ _ bound) not_fits_fitting _ 0 (Nat.zero_add _)
  rwa [← List.range_eq_range'] at hwalk

/-! ## The whole list -/

/-- The children of a list that opens are those of a cursor before its first
element. -/
theorem yields_fresh_of_opens {subject : Value} {length : Int} {children : List Child}
    (h : Opens program subject .length .data data length)
    (walk : Cursor.Yields program settings
      (.list (walking data 0 (min length.toNat settings.maxListChildren))) children) :
    Cursor.Yields program settings (.list (fresh subject)) children := by
  refine walk.congr ?_
  rw [Cursor.next_list, Cursor.next_list, value_next_fresh_of_opens h]

/-- The summary of a list that opens shows the length that the list states. -/
theorem value_summary_of_opens {subject : Value} {length : Int}
    (h : Opens program subject .length .data data length) (elem : String) :
    (Printer.summary program settings ⟨subject, .list elem⟩).value =
      s!"{(Container.list elem).title}({length})" := by
  obtain ⟨body, addr, reached, hlength, -⟩ := h
  have hdecode : (Printer.decode program settings ⟨subject, .list elem⟩).result =
      .ok s!"{(Container.list elem).title}({length})" := by
    unfold Printer.decode
    rw [Look.result_bind_of_ok (result_openContainer_eq_some_iff.mpr reached)]
    show (Printer.decodeCount program (.list elem) body).result = _
    unfold Printer.decodeCount
    rw [Look.result_bind_of_ok hlength]
    rfl
  unfold Printer.summary
  rw [Look.value_orNote, hdecode]
  rfl

/-- These are the children of a list: they come one with each call, and draining it
gives them all. -/
def Gives (program : Program) (settings : Settings) (subject : Value) (elem : String)
    (children : List Child) : Prop :=
  Cursor.Yields program settings (Printer.cursor ⟨subject, .list elem⟩) children ∧
    ((Printer.cursor ⟨subject, .list elem⟩).drain program settings).value = children

/-- A cursor that yields no more children than can be counted gives all of them when
it is drained. -/
theorem gives_of_yields {subject : Value} {elem : String} {children : List Child}
    (h : Cursor.Yields program settings (.list (fresh subject)) children)
    (few : children.length ≤ addressLimit) : Gives program settings subject elem children :=
  ⟨h, h.drain_eq few⟩

/-- A length is read as a number of eight bytes, so that the elements can be
counted. -/
theorem length_elements_le_of_opens {subject : Value} {length : Int}
    (h : Opens program subject .length .data data length) (limit : Nat) :
    (elements base stride target (fitting base stride (min length.toNat limit))).length ≤
      addressLimit := by
  obtain ⟨body, addr, -, hlength, -⟩ := h
  have hlt := Program.readCount_lt hlength
  have hle := fitting_le base stride (min length.toNat limit)
  rw [length_elements]
  omega

/-- **The walk over a list is exact.** If the list opens and its buffer is one of
elements with a size, the children are these elements, in order: as many as the list
states and the settings allow, or as many as have addresses, if these are fewer. If
none of those that the list states is left out, their number is the one in the
summary. A list whose elements have no size has no children, and neither has one
that does not open. -/
theorem gives_elements (program : Program) (settings : Settings) (subject : Value)
    (elem : String) :
    (∀ data length base target, Opens program subject .length .data data length →
      Buffer program data base target →
      let stride := program.types.sizeOf target
      let bound := min length.toNat settings.maxListChildren
      let children := elements base stride target (fitting base stride bound)
      IsGreatest {count | count ≤ bound ∧ Fit base stride count} (fitting base stride bound) ∧
      Gives program settings subject elem children ∧
      (0 ≤ length → length ≤ settings.maxListChildren → Fit base stride length.toNat →
        (Printer.summary program settings ⟨subject, .list elem⟩).value =
          s!"{(Container.list elem).title}({children.length})")) ∧
    (∀ data length, Opens program subject .length .data data length →
      (∀ target reference, program.shape data = .pointer target reference →
        program.types.sizeOf target = 0) →
      Gives program settings subject elem []) ∧
    ((∀ data length, ¬ Opens program subject .length .data data length) →
      Gives program settings subject elem []) := by
  refine ⟨?_, ?_, ?_⟩
  · intro data length base target h buffer stride bound children
    have hyields := yields_fresh_of_opens h (yields_elements settings buffer bound)
    refine ⟨isGreatest_fitting base stride bound,
      gives_of_yields hyields (length_elements_le_of_opens h _), ?_⟩
    intro nonneg allowed fit
    obtain ⟨count, rfl⟩ := Int.eq_ofNat_of_zero_le nonneg
    have whole : bound = count := Nat.min_eq_left (by omega)
    have hlength : children.length = count := by
      rw [length_elements, whole]
      exact fitting_eq_of_fit fit
    rw [value_summary_of_opens h, hlength]
    rfl
  · intro data length h unsized
    obtain ⟨body, base, -, -, -, read, -⟩ := id h
    refine gives_of_yields (yields_fresh_of_opens h (yields_nil ?_)) (Nat.zero_le _)
    rcases advance_cases program data 0 (min length.toNat settings.maxListChildren) with
      ⟨element, -, found, -⟩ | hend
    · exact absurd found (index_ne_ok_of_no_stride read unsized)
    · exact hend
  · intro h
    exact gives_of_yields (yields_nil (value_next_fresh_of_not_opens h)) (Nat.zero_le _)

/-! ### A list at the end of the addresses

Three numbers of eight bytes fit between the buffer's address and the last one. -/

/-- The types of a list of integers. -/
def topTypes : TypeTable :=
  let types := TypeTable.empty.add (TypeTable.primitiveEntry "i64" 8 { signed := true })
  let types := types.add (TypeTable.pointerEntry 1)
  types.add (types.layOut "List" false [⟨"len", 1⟩, ⟨"data", 2⟩])

/-- A list that states this length. Nothing is mapped but its struct. -/
def topProgram (length : Nat) : Program where
  types := topTypes
  memory := Snapshot.memory
    ⟨[⟨0x1000, [length, 0xFFFFFFFFFFFFFFE8].flatMap (LittleEndian.toBytes 8)⟩]⟩

theorem opens_top_five : Opens (topProgram 5) (.stored 0x1000 3) .length .data
    (.stored 0x1008 2) 5 :=
  ⟨.stored 0x1000 3, 0xFFFFFFFFFFFFFFE8, .itself rfl, rfl, rfl, rfl, by decide⟩

theorem opens_top_three : Opens (topProgram 3) (.stored 0x1000 3) .length .data
    (.stored 0x1008 2) 3 :=
  ⟨.stored 0x1000 3, 0xFFFFFFFFFFFFFFE8, .itself rfl, rfl, rfl, rfl, by decide⟩

/-- Of five elements the first three are shown. A list of these three shows them
all, and says so. -/
theorem gives_elements_top :
    ((Printer.cursor ⟨.stored 0x1000 3, .list "i64"⟩).drain (topProgram 5) {}).value =
        [⟨"[0]", .stored 0xFFFFFFFFFFFFFFE8 1⟩, ⟨"[1]", .stored 0xFFFFFFFFFFFFFFF0 1⟩,
          ⟨"[2]", .stored 0xFFFFFFFFFFFFFFF8 1⟩] ∧
      (Printer.summary (topProgram 3) {} ⟨.stored 0x1000 3, .list "i64"⟩).value =
        "List[i64](3)" := by
  have five : Buffer (topProgram 5) (.stored 0x1008 2) 0xFFFFFFFFFFFFFFE8 1 :=
    ⟨⟨false, rfl⟩, rfl, by decide, by decide⟩
  have three : Buffer (topProgram 3) (.stored 0x1008 2) 0xFFFFFFFFFFFFFFE8 1 :=
    ⟨⟨false, rfl⟩, rfl, by decide, by decide⟩
  obtain ⟨-, ⟨-, hchildren⟩, -⟩ :=
    (gives_elements (topProgram 5) {} (.stored 0x1000 3) "i64").1 _ _ _ _ opens_top_five five
  obtain ⟨-, -, hsummary⟩ :=
    (gives_elements (topProgram 3) {} (.stored 0x1000 3) "i64").1 _ _ _ _ opens_top_three three
  refine ⟨hchildren, hsummary (by decide) (by decide) ?_⟩
  unfold Fit
  decide

end HeapLens.ListCursor
