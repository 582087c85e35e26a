import HeapLens.Proofs.CursorYields
import HeapLens.Proofs.DisplayNesting

/-!
# Showing children: what stands between the braces

The items of a container or of a struct are said here without a loop, and the text
around them is written out. All children have an item; of the items the first few
are taken, and an ellipsis stands for the others (`limited`); on the last level
there are braces only (`enclosed`). What is looked at for it is a list of events, in
which calls on the cursor and renderings take turns (`turns`).

> `listed_array`, `listed_map`: from whatever cursor, the loop over the children
> gives the limited items of all that the cursor yields, and its events are the
> turns of the children that are shown.

A map takes its children in pairs, so that none of its entries misses its value. The
loop asks for one child more than it shows, and renders none that it does not show.
-/

namespace HeapLens.Display

open Cursor (Yields)

/-- The first `limit` items; one more, of three dots, stands for what is left
out. -/
def limited (limit : Nat) (items : List String) : List String :=
  items.take limit ++ if limit < items.length then ["..."] else []

section

variable (program : Program) (settings : Settings)

/-- Items in braces, with commas between them. From the last level on there are
three dots instead of any item. -/
def enclosed (depth : Nat) (items : List String) : String :=
  if depth < settings.maxShownDepth then
    "\x7b" ++ ", ".intercalate (limited settings.maxShownChildren items) ++ "\x7d"
  else "\x7b...\x7d"

/-- What follows the summary of a container: nothing, if there are no items. -/
def contents (depth : Nat) (items : List String) : String :=
  if items = [] then "" else " = " ++ enclosed settings depth items

/-- The children that are rendered, of which there is room for `count`: on the last
level none. -/
def rendered (depth count : Nat) (children : List Child) : List Child :=
  if depth < settings.maxShownDepth then children.take count else []

/-- How a value inside one at `depth` is rendered. -/
def inner (registry : Registry) (depth : Nat) (w : Value) : Traced String :=
  answer program settings registry ⟨depth + 1, w⟩

variable (deeper : Value → Traced String)

/-- The events of showing children: a call on the cursor for each, and its
rendering, and one call more. -/
def turns : Cursor → List Child → List Event
  | cursor, [] => (cursor.next program settings).events
  | cursor, child :: rest =>
    (cursor.next program settings).events ++ (deeper child.value).events ++
      turns (cursor.next program settings).value.2 rest

/-- The item of a pair: its key and its value. -/
def pairItem (pair : Child × Child) : String :=
  s!"[{(deeper pair.1.value).value}] = {(deeper pair.2.value).value}"

/-- The item of a part, with its name. -/
def partItem (part : Child) : String := s!"{part.label} = {(deeper part.value).value}"

/-- The items that a cursor's children give, from the next call on. -/
def listed (hint : Hint) (room : Nat) (cursor : Cursor) : Traced (List String) := do
  let (first, cursor) ← cursor.next program settings
  entries program settings deeper hint room first cursor

end

variable {program : Program} {settings : Settings} {deeper : Value → Traced String}

/-! ## Limits -/

theorem limited_nil (limit : Nat) : limited limit [] = [] := by simp [limited]

/-- Without room the dots stand for all that there is. -/
theorem limited_zero_cons (item : String) (items : List String) :
    limited 0 (item :: items) = [ellipsis] := by simp [limited, ellipsis]

/-- An item that there is room for is taken, and leaves room for one less. -/
theorem limited_succ_cons (limit : Nat) (item : String) (items : List String) :
    limited (limit + 1) (item :: items) = item :: limited limit items := by simp [limited]

/-- One item more than the limit is enough to know whether something is left out. -/
theorem limited_take (limit : Nat) (items : List String) :
    limited limit (items.take (limit + 1)) = limited limit items := by
  unfold limited
  rw [List.take_take, Nat.min_eq_left (Nat.le_succ limit), List.length_take]
  simp only [Nat.lt_min, Nat.lt_succ_self, true_and]

/-- Above the last level the braces of the display are around the limited items. -/
theorem enclosed_of_lt {depth : Nat} (below : depth < settings.maxShownDepth)
    (items : List String) :
    enclosed settings depth items = braced (limited settings.maxShownChildren items) :=
  if_pos below

/-- From the last level on the display closes the braces. -/
theorem enclosed_of_not_lt {depth : Nat} (last : ¬ depth < settings.maxShownDepth)
    (items : List String) : enclosed settings depth items = closed := if_neg last

/-! ## The loop over a cursor's children -/

theorem listed_of_none {hint : Hint} {room : Nat} {cursor after : Cursor}
    (answer : (cursor.next program settings).value = (none, after)) :
    listed program settings deeper hint room cursor =
      ⟨[], (cursor.next program settings).events⟩ := by
  unfold listed
  apply Traced.ext
  · rw [Traced.value_bind, answer]
    cases room <;> rfl
  · rw [Traced.events_bind, answer]
    cases room <;> exact List.append_nil _

/-- A cursor that gives a child leaves the rest to the loop. -/
theorem listed_of_some {hint : Hint} {room : Nat} {cursor after : Cursor} {child : Child}
    (answer : (cursor.next program settings).value = (some child, after)) :
    listed program settings deeper hint room cursor =
      ⟨(entries program settings deeper hint room (some child) after).value,
        (cursor.next program settings).events ++
          (entries program settings deeper hint room (some child) after).events⟩ := by
  unfold listed
  apply Traced.ext
  · rw [Traced.value_bind, answer]
  · rw [Traced.events_bind, answer]

/-- Nothing fits in, so that the first child only tells that there is one. -/
theorem listed_zero_of_some {hint : Hint} {cursor after : Cursor} {child : Child}
    (answer : (cursor.next program settings).value = (some child, after)) :
    listed program settings deeper hint 0 cursor =
      ⟨[ellipsis], (cursor.next program settings).events⟩ := by
  rw [listed_of_some answer]
  exact Traced.ext rfl (List.append_nil _)

/-- The step of the loop: a child is rendered, and then the next one is asked
for. -/
theorem listed_array_of_some {room : Nat} {cursor after : Cursor} {child : Child}
    (answer : (cursor.next program settings).value = (some child, after)) :
    listed program settings deeper .array (room + 1) cursor =
      ⟨(deeper child.value).value :: (listed program settings deeper .array room after).value,
        (cursor.next program settings).events ++ (deeper child.value).events ++
          (listed program settings deeper .array room after).events⟩ := by
  rw [listed_of_some answer]
  apply Traced.ext
  · rfl
  · simp [entries, entry, listed]

/-- The step for a map: a key is rendered, its value is asked for and rendered, and
then the next key is asked for. -/
theorem listed_map_of_some {room : Nat} {cursor between after : Cursor} {key value : Child}
    (answer : (cursor.next program settings).value = (some key, between))
    (due : (between.next program settings).value = (some value, after)) :
    listed program settings deeper .map (room + 1) cursor =
      ⟨pairItem deeper (key, value) :: (listed program settings deeper .map room after).value,
        (cursor.next program settings).events ++ (deeper key.value).events ++
          ((between.next program settings).events ++ (deeper value.value).events ++
            (listed program settings deeper .map room after).events)⟩ := by
  rw [listed_of_some answer]
  apply Traced.ext
  · simp [entries, entry, listed, due, pairItem]
  · simp [entries, entry, listed, due]

/-- An array has an item for each child, by induction on the children that the
cursor yields. -/
theorem listed_array {cursor : Cursor} {children : List Child}
    (h : Yields program settings cursor children) (room : Nat) :
    listed program settings deeper .array room cursor =
      ⟨limited room (children.map fun child => (deeper child.value).value),
        turns program settings deeper cursor (children.take room)⟩ := by
  induction h generalizing room with
  | ended answer => rw [listed_of_none answer, List.map_nil, limited_nil, List.take_nil, turns]
  | child answer more ih =>
    cases room with
    | zero =>
      rw [listed_zero_of_some answer, List.map_cons, limited_zero_cons, List.take_zero, turns]
    | succ room =>
      rw [listed_array_of_some answer, ih room, List.map_cons, limited_succ_cons,
        List.take_succ_cons, turns, answer]

/-- A map has an item for each pair of children. -/
theorem listed_map {pairs : List (Child × Child)} (room : Nat) : ∀ {cursor : Cursor},
    Yields program settings cursor (pairs.flatMap pairChildren) →
    listed program settings deeper .map room cursor =
      ⟨limited room (pairs.map (pairItem deeper)),
        turns program settings deeper cursor ((pairs.flatMap pairChildren).take (2 * room))⟩ := by
  -- The cursor gives two children for each pair, so the induction is on the pairs.
  induction pairs generalizing room with
  | nil =>
    intro cursor h
    cases h with
    | ended answer =>
      rw [listed_of_none answer, List.map_nil, limited_nil, List.flatMap_nil, List.take_nil, turns]
  | cons pair pairs ih =>
    intro cursor h
    rw [List.flatMap_cons] at h ⊢
    obtain ⟨key, value⟩ := pair
    cases h with
    | child answer more =>
      cases more with
      | child due more =>
        cases room with
        | zero =>
          rw [listed_zero_of_some answer, List.map_cons, limited_zero_cons, List.take_zero, turns]
        | succ room =>
          rw [listed_map_of_some answer due, ih room more, List.map_cons, limited_succ_cons]
          show _ = Traced.mk _ (turns program settings deeper cursor
            (key :: value :: (pairs.flatMap pairChildren).take (2 * room)))
          rw [turns, turns, answer, due]

/-! ## Containers -/

theorem container_of_none {level : Option (Value → Traced String)} {printer : Printer} {hint : Hint}
    {after : Cursor} (answer : (printer.cursor.next program settings).value = (none, after))
    (summary : String) :
    container program settings level printer hint summary =
      ⟨summary, (printer.cursor.next program settings).events⟩ := by
  unfold container
  apply Traced.ext
  · rw [Traced.value_bind, answer]
    rfl
  · rw [Traced.events_bind, answer]
    exact List.append_nil _

/-- On the last level it is enough to know that there is a child. -/
theorem container_of_last {printer : Printer} {hint : Hint} {child : Child} {after : Cursor}
    (answer : (printer.cursor.next program settings).value = (some child, after))
    (summary : String) :
    container program settings none printer hint summary =
      ⟨summary ++ " = " ++ closed, (printer.cursor.next program settings).events⟩ := by
  unfold container
  apply Traced.ext
  · rw [Traced.value_bind, answer]
    rfl
  · rw [Traced.events_bind, answer]
    exact List.append_nil _

/-- The items stand behind the summary, in braces. -/
theorem container_of_some {printer : Printer} {hint : Hint} {child : Child} {after : Cursor}
    (answer : (printer.cursor.next program settings).value = (some child, after))
    (summary : String) :
    container program settings (some deeper) printer hint summary =
      ⟨summary ++ " = " ++ braced
          (listed program settings deeper hint settings.maxShownChildren printer.cursor).value,
        (listed program settings deeper hint settings.maxShownChildren printer.cursor).events⟩ := by
  rw [listed_of_some answer]
  unfold container
  apply Traced.ext
  · rw [Traced.value_bind, answer]
    rfl
  · rw [Traced.events_bind, answer]
    simp

/-- A container whose children are listed as items: none, closed on the last level,
or all that the loop gives. -/
theorem container_eq {registry : Registry} {depth : Nat} {printer : Printer} {hint : Hint}
    {children : List Child} {items : List String} {count : Nat}
    (h : Yields program settings printer.cursor children) (hempty : items = [] ↔ children = [])
    (hlisted : listed program settings (inner program settings registry depth) hint
        settings.maxShownChildren printer.cursor =
      ⟨limited settings.maxShownChildren items,
        turns program settings (inner program settings registry depth) printer.cursor
          (children.take count)⟩)
    (summary : String) :
    container program settings (inside settings (answer program settings registry) depth) printer
        hint summary =
      ⟨summary ++ contents settings depth items,
        turns program settings (inner program settings registry depth) printer.cursor
          (rendered settings depth count children)⟩ := by
  cases h with
  | ended answer =>
    have hitems : items = [] := hempty.mpr rfl
    have hrendered : rendered settings depth count [] = [] := by
      unfold rendered
      rw [List.take_nil, ite_self]
    rw [container_of_none answer, hitems, hrendered]
    exact Traced.ext String.append_empty.symm rfl
  | @child _ after child rest answer more =>
    have hitems : items ≠ [] := fun h => List.cons_ne_nil child rest (hempty.mp h)
    unfold contents rendered inside
    rw [if_neg hitems]
    by_cases below : depth < settings.maxShownDepth
    · rw [enclosed_of_lt below, if_pos below, if_pos below]
      show container program settings (some (inner program settings registry depth)) _ _ _ = _
      rw [container_of_some answer, hlisted]
      exact Traced.ext String.append_assoc rfl
    · rw [enclosed_of_not_lt below, if_neg below, if_neg below, container_of_last answer]
      exact Traced.ext String.append_assoc rfl

variable {registry : Registry} {depth : Nat} {v : Value} {printer : Printer}

/-- A container is shown with its children, behind its summary. -/
theorem claimed_of_hint {level : Option (Value → Traced String)} {hint : Hint}
    (hhint : (printer.hint program).value = hint) (hkind : hint = .array ∨ hint = .map) :
    claimed program settings level printer =
      ⟨(container program settings level printer hint
          (printer.summary program settings).value).value,
        (printer.summary program settings).events ++ ((printer.hint program).events ++
          (container program settings level printer hint
            (printer.summary program settings).value).events)⟩ := by
  unfold claimed
  rcases hkind with rfl | rfl
  · apply Traced.ext
    · rw [Traced.value_bind, Traced.value_bind, hhint]
    · rw [Traced.events_bind, Traced.events_bind, hhint]
  · apply Traced.ext
    · rw [Traced.value_bind, Traced.value_bind, hhint]
    · rw [Traced.events_bind, Traced.events_bind, hhint]

/-- A value that a hook claims is shown by its printer. -/
theorem answer_of_some (found : (registry.lookup program settings v).value = some printer) :
    answer program settings registry ⟨depth, v⟩ =
      ⟨(claimed program settings (inside settings (answer program settings registry) depth)
          printer).value,
        (registry.lookup program settings v).events ++
          (claimed program settings (inside settings (answer program settings registry) depth)
            printer).events⟩ := by
  rw [answer_eq_onLevel]
  unfold onLevel
  apply Traced.ext
  · rw [Traced.value_bind, found]
  · rw [Traced.events_bind, found]

/-- A struct or array that no hook claims is shown through its parts. It is no
pointer, so that none is followed. -/
theorem answer_of_aggregate (found : (registry.lookup program settings v).value = none)
    (aggregate : program.isAggregate v = true) :
    answer program settings registry ⟨depth, v⟩ =
      ⟨(unclaimed program settings (inside settings (answer program settings registry) depth)
          v).value,
        (registry.lookup program settings v).events ++
          (unclaimed program settings (inside settings (answer program settings registry) depth)
            v).events⟩ := by
  rw [answer_eq_onLevel, onLevel_eq_target (Program.isPointer_eq_false_of_isAggregate aggregate)]
  unfold target
  apply Traced.ext
  · rw [Traced.value_bind, found]
  · rw [Traced.events_bind, found]

/-! ## Values that no hook claims -/

/-- The parts that there is room for are rendered, one after the other. -/
theorem members_eq (room : Nat) (parts : List Child) :
    members deeper room parts =
      ⟨limited room (parts.map (partItem deeper)),
        (parts.take room).flatMap fun part => (deeper part.value).events⟩ := by
  induction parts generalizing room with
  | nil =>
    rw [List.map_nil, limited_nil, List.take_nil, List.flatMap_nil]
    cases room <;> rfl
  | cons part rest ih =>
    cases room with
    | zero =>
      rw [List.map_cons, limited_zero_cons, List.take_zero, List.flatMap_nil]
      rfl
    | succ room =>
      rw [List.map_cons, limited_succ_cons, List.take_succ_cons, List.flatMap_cons, members,
        ih room]
      exact Traced.ext rfl rfl

/-- One part more than there is room for is found, and it is not rendered. -/
theorem members_take (room : Nat) (parts : List Child) :
    members deeper room (parts.take (room + 1)) =
      ⟨limited room (parts.map (partItem deeper)),
        (parts.take room).flatMap fun part => (deeper part.value).events⟩ := by
  rw [members_eq, List.map_take, limited_take, List.take_take, Nat.min_eq_left (Nat.le_succ room)]

/-- A struct or array on the last level. -/
theorem unclaimed_none {parts : List Child} (aggregate : program.isAggregate v = true)
    (found : (program.parts v (settings.maxShownChildren + 1)).result = .ok parts) :
    unclaimed program settings none v =
      ⟨closed, (program.parts v (settings.maxShownChildren + 1)).events⟩ := by
  have hshown : (parts.isEmpty && !program.isAggregate v) = false := by
    rw [aggregate, Bool.not_true, Bool.and_false]
  unfold unclaimed
  apply Traced.ext
  · rw [Traced.value_bind, Look.value_run, found]
    dsimp only
    rw [hshown]
    rfl
  · rw [Traced.events_bind, Look.value_run, found]
    dsimp only
    rw [hshown]
    exact List.append_nil _

/-- The parts of a struct or array stand in braces, even if there are none. -/
theorem unclaimed_some {parts : List Child} (aggregate : program.isAggregate v = true)
    (found : (program.parts v (settings.maxShownChildren + 1)).result = .ok parts) :
    unclaimed program settings (some deeper) v =
      ⟨braced (members deeper settings.maxShownChildren parts).value,
        (program.parts v (settings.maxShownChildren + 1)).events ++
          (members deeper settings.maxShownChildren parts).events⟩ := by
  have hshown : (parts.isEmpty && !program.isAggregate v) = false := by
    rw [aggregate, Bool.not_true, Bool.and_false]
  unfold unclaimed
  apply Traced.ext
  · rw [Traced.value_bind, Look.value_run, found]
    dsimp only
    rw [hshown]
    rfl
  · rw [Traced.events_bind, Look.value_run, found]
    dsimp only
    rw [hshown]
    exact congrArg (_ ++ ·) (List.append_nil _)

/-- All parts are known from any list of them that had room for more. -/
theorem unclaimed_eq {limit : Nat} {children : List Child}
    (aggregate : program.isAggregate v = true)
    (h : (program.parts v limit).result = .ok children) (hall : children.length < limit) :
    unclaimed program settings (inside settings (answer program settings registry) depth) v =
      ⟨enclosed settings depth (children.map (partItem (inner program settings registry depth))),
        (program.parts v (settings.maxShownChildren + 1)).events ++
          (rendered settings depth settings.maxShownChildren children).flatMap fun part =>
            (inner program settings registry depth part.value).events⟩ := by
  have found := Program.result_parts_take h hall (settings.maxShownChildren + 1)
  unfold rendered inside
  by_cases below : depth < settings.maxShownDepth
  · rw [enclosed_of_lt below, if_pos below, if_pos below]
    show unclaimed program settings (some (inner program settings registry depth)) v = _
    rw [unclaimed_some aggregate found, members_take]
  · rw [enclosed_of_not_lt below, if_neg below, if_neg below, unclaimed_none aggregate found,
      List.flatMap_nil, List.append_nil]

/-! ## All of it -/

theorem map_eq_nil_iff_flatMap {pairs : List (Child × Child)} {item : Child × Child → String} :
    pairs.map item = [] ↔ pairs.flatMap pairChildren = [] := by
  cases pairs with
  | nil => exact iff_of_true rfl rfl
  | cons pair rest => exact iff_of_false (List.cons_ne_nil _ _) (List.cons_ne_nil _ _)

/-- What is to be shown in pairs comes in pairs. -/
theorem exists_pairs_of_hint (settings : Settings) (hhint : (printer.hint program).value = .map) :
    ∃ pairs : List (Child × Child),
      Yields program settings printer.cursor (pairs.flatMap pairChildren) := by
  obtain ⟨subject, container⟩ := printer
  cases container with
  | text =>
    unfold Printer.hint at hhint
    rw [Traced.value_bind, Traced.value_pure] at hhint
    split at hhint <;> cases hhint
  | list elem => cases hhint
  | dict key value =>
    obtain ⟨pairs, -, hyields⟩ := DictCursor.exists_pairs_fresh program settings subject
    exact ⟨pairs, hyields⟩

/-- **What is shown of containers, structs and arrays is exact**, with any limits,
at any depth and whatever the hooks are:

1. A container that is shown as an array yields some children, and has an item for
   each.
2. A container that is shown as a map yields some pairs, and has an item for each:
   no value is missing.
3. A struct or an array that no hook claims has an item for each of its parts. They
   are `children` if these are found with more room than they take.
4. What a pointer leads to is shown as it would be in the pointer's place.

Besides what it takes to claim a value, its summary and its hint, the cursor is
called once for each child that is rendered and once more. What does not fit is not
rendered, and on the last level nothing is. -/
theorem items_exact (program : Program) (settings : Settings) (registry : Registry) (depth : Nat)
    (v : Value) :
    (∀ printer, (registry.lookup program settings v).value = some printer →
      ((printer.hint program).value = .array → ∃ children,
        Yields program settings printer.cursor children ∧
        answer program settings registry ⟨depth, v⟩ =
          ⟨(printer.summary program settings).value ++ contents settings depth
              (children.map fun child => (inner program settings registry depth child.value).value),
            (registry.lookup program settings v).events ++
              (printer.summary program settings).events ++ (printer.hint program).events ++
              turns program settings (inner program settings registry depth) printer.cursor
                (rendered settings depth settings.maxShownChildren children)⟩) ∧
      ((printer.hint program).value = .map → ∃ pairs : List (Child × Child),
        Yields program settings printer.cursor (pairs.flatMap pairChildren) ∧
        answer program settings registry ⟨depth, v⟩ =
          ⟨(printer.summary program settings).value ++ contents settings depth
              (pairs.map (pairItem (inner program settings registry depth))),
            (registry.lookup program settings v).events ++
              (printer.summary program settings).events ++ (printer.hint program).events ++
              turns program settings (inner program settings registry depth) printer.cursor
                (rendered settings depth (2 * settings.maxShownChildren)
                  (pairs.flatMap pairChildren))⟩)) ∧
    ((registry.lookup program settings v).value = none → program.isAggregate v = true →
      ∀ limit children, (program.parts v limit).result = .ok children → children.length < limit →
        answer program settings registry ⟨depth, v⟩ =
          ⟨enclosed settings depth
              (children.map (partItem (inner program settings registry depth))),
            (registry.lookup program settings v).events ++
              (program.parts v (settings.maxShownChildren + 1)).events ++
              (rendered settings depth settings.maxShownChildren children).flatMap fun part =>
                (inner program settings registry depth part.value).events⟩) ∧
    (program.isPointer v = false →
      target program settings registry (inside settings (answer program settings registry) depth)
          v =
        answer program settings registry ⟨depth, v⟩) := by
  refine ⟨?_, ?_, ?_⟩
  · intro printer found
    rw [answer_of_some found]
    constructor
    · intro hhint
      obtain ⟨children, -, hyields⟩ := Cursor.exists_yields program settings printer
      refine ⟨children, hyields, ?_⟩
      rw [claimed_of_hint hhint (Or.inl rfl),
        container_eq hyields List.map_eq_nil_iff (listed_array hyields _), List.append_assoc,
        List.append_assoc]
    · intro hhint
      obtain ⟨pairs, hyields⟩ := exists_pairs_of_hint settings hhint
      refine ⟨pairs, hyields, ?_⟩
      rw [claimed_of_hint hhint (Or.inr rfl),
        container_eq hyields map_eq_nil_iff_flatMap (listed_map _ hyields), List.append_assoc,
        List.append_assoc]
  · intro found aggregate limit children h hall
    rw [answer_of_aggregate found aggregate, unclaimed_eq aggregate h hall, List.append_assoc]
  · intro straight
    rw [answer_eq_onLevel, onLevel_eq_target straight]

/-! ### A dictionary in a registry of its own -/

open DictCursor (holeProgram)

/-- Shows the struct of the table with a hole as a dictionary, and nothing else. -/
def dictRegistry : Registry :=
  ⟨[.always "dictionary" (some (.dict "i" "i")) (some "struct Dict")]⟩

/-- There is one entry to show, and on the first level it is rendered. -/
theorem items_exact_hole :
    (dictRegistry.lookup holeProgram {} (.stored 0x1000 4)).value =
        some ⟨.stored 0x1000 4, .dict "i" "i"⟩ ∧
      (answer holeProgram {} dictRegistry ⟨0, .stored 0x1000 4⟩).value =
        "Dict[i, i](9) = \x7b[7] = 8\x7d" := by
  have found : (dictRegistry.lookup holeProgram {} (.stored 0x1000 4)).value =
      some ⟨.stored 0x1000 4, .dict "i" "i"⟩ := by rfl
  obtain ⟨pairs, hyields, hanswer⟩ :=
    ((items_exact holeProgram {} dictRegistry 0 (.stored 0x1000 4)).1 _ found).2 rfl
  have hpairs : pairs =
      [(⟨"[0].key", .stored 0x2020 1⟩, ⟨"[0].value", .stored 0x2028 1⟩)] :=
    flatMap_pairChildren_inj
      (hyields.unique (DictCursor.yields_fresh_of_opens DictCursor.opens_hole))
  rw [hanswer, hpairs]
  exact ⟨found, rfl⟩

example : (answer holeProgram {} dictRegistry ⟨4, .stored 0x1000 4⟩).value =
    "Dict[i, i](9) = \x7b...\x7d" := by rfl

end HeapLens.Display
