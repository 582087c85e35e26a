import HeapLens.Types.Fields
import HeapLens.Types.Layout

/-!
# Tables of types: what stays as a table grows

A table is put together by operations: types are added one after the other, and a
struct that was declared is completed in its place. An entry takes the sizes of the
types that it is made of from the table as it is then, and does not take them again.

> `Grows`: of the entries that are there, only those of declared structs change, and
> these stay structs.

So a size is out of date only if it was taken from a struct that was still declared.
Operations that keep from that (`Orderly`) lead to tables in which each entry agrees
with the sizes of its parts as they are now (`Sound`): a step lemma for one
operation (`Change.sound`), and along a run `sound_foldl`.
-/

namespace HeapLens.TypeTable

/-! ## Operations -/

/-- An operation on a table of types. -/
inductive Op where
  /-- Any entry, as it is given. -/
  | entry (e : TypeEntry)
  | primitive (name : String) (size : Nat) (traits : Traits)
  | pointer (target : TypeId)
  | array (elem : TypeId) (length : Nat)
  | typedef (name : String) (target : TypeId)
  | declare (name : String)
  /-- A struct or union with its members. -/
  | record (name : String) (isUnion : Bool) (members : List Member)
  /-- The members of a struct that was declared. -/
  | complete (declared : TypeId) (name : String) (isUnion : Bool) (members : List Member)
  deriving DecidableEq, Repr

/-- What an operation makes of the table, or the fault in which it ends. -/
def apply (table : TypeTable) : Op → Except Fault TypeTable
  | .entry e => .ok (table.add e)
  | .primitive name size traits => .ok (table.add (primitiveEntry name size traits))
  | .pointer target => .ok (table.add (pointerEntry target))
  | .array elem length => .ok (table.add (table.arrayEntry elem length))
  | .typedef name target => .ok (table.add (typedefEntry name target))
  | .declare name => .ok (table.add (declarationEntry name))
  | .record name isUnion members => .ok (table.add (table.layOut name isUnion members))
  | .complete declared name isUnion members => table.complete declared name isUnion members

/-- The table after an operation, which may have failed. -/
def step (table : TypeTable) (op : Op) : TypeTable :=
  match table.apply op with
  | .ok after => after
  | .error _ => table

def run (ops : List Op) : TypeTable := ops.foldl step empty

/-- Whether there is a struct at `t` that is only declared. -/
def isDeclared (table : TypeTable) (t : TypeId) : Bool :=
  match table.shape t with
  | .record record => record.isDeclaration
  | _ => false

/-- A type whose size is known: behind its typedefs there is no struct that is only
declared. -/
def Settled (table : TypeTable) (t : TypeId) : Prop :=
  t < table.size ∧ table.isDeclared (table.strip t) = false

/-- A struct or union can be laid out of these members. -/
def Placeable (table : TypeTable) (name : String) (isUnion : Bool) (members : List Member) : Prop :=
  (∀ m ∈ members, table.Settled m.type) ∧
    (table.layOut name isUnion members).size < addressLimit

/-- The operation takes its types from the table, the sizes it needs are known, and
the size that comes out is one that a program can have. -/
def Op.Orderly (table : TypeTable) : Op → Prop
  | .entry _ => False
  | .primitive _ size _ => size < addressLimit
  | .pointer target => target < table.size
  | .array elem length => table.Settled elem ∧ table.sizeOf elem * length < addressLimit
  | .typedef _ target => target < table.size
  | .declare _ => True
  | .record name isUnion members => table.Placeable name isUnion members
  | .complete declared name isUnion members =>
    declared < table.size ∧ table.Placeable name isUnion members

/-- Each operation is orderly when its turn comes. -/
def Orderly (table : TypeTable) : List Op → Prop
  | [] => True
  | op :: ops => op.Orderly table ∧ (table.step op).Orderly ops

instance (table : TypeTable) (t : TypeId) : Decidable (table.Settled t) :=
  inferInstanceAs (Decidable (_ ∧ _))

instance (table : TypeTable) (name : String) (isUnion : Bool) (members : List Member) :
    Decidable (table.Placeable name isUnion members) :=
  inferInstanceAs (Decidable (_ ∧ _))

instance (table : TypeTable) : (op : Op) → Decidable (op.Orderly table)
  | .entry _ => inferInstanceAs (Decidable False)
  | .primitive _ _ _ => inferInstanceAs (Decidable (_ < _))
  | .pointer _ => inferInstanceAs (Decidable (_ < _))
  | .array _ _ => inferInstanceAs (Decidable (_ ∧ _))
  | .typedef _ _ => inferInstanceAs (Decidable (_ < _))
  | .declare _ => inferInstanceAs (Decidable True)
  | .record _ _ _ => inferInstanceAs (Decidable (Placeable ..))
  | .complete _ _ _ _ => inferInstanceAs (Decidable (_ ∧ _))

instance decidableOrderly (table : TypeTable) : (ops : List Op) → Decidable (table.Orderly ops)
  | [] => inferInstanceAs (Decidable True)
  | op :: ops =>
    have := decidableOrderly (table.step op) ops
    inferInstanceAs (Decidable (_ ∧ _))

variable {table before after : TypeTable} {t : TypeId} {ops : List Op}

/-- Operations are orderly if the first of them are, and the others in the table
that these leave. -/
theorem orderly_append (later : List Op) :
    table.Orderly (ops ++ later) ↔ table.Orderly ops ∧ (ops.foldl step table).Orderly later := by
  induction ops generalizing table with
  | nil => exact ⟨fun h => ⟨trivial, h⟩, fun h => h.2⟩
  | cons op ops ih =>
    rw [List.cons_append, Orderly, Orderly, ih, List.foldl_cons, and_assoc]

/-! ## Growing -/

/-- Of the entries in `before`, only those of declared structs are others in
`after`. -/
structure Grows (before after : TypeTable) : Prop where
  size_le : before.size ≤ after.size
  entry_eq : ∀ t, t < before.size → before.isDeclared t = false → after.entry t = before.entry t
  record : ∀ t, before.isDeclared t = true → ∃ record, after.shape t = .record record

theorem lt_size_of_shape (h : table.shape t ≠ .unknown) : t < table.size := by
  rcases Nat.lt_or_ge t table.size with inside | outside
  · exact inside
  · refine absurd ?_ h
    unfold shape
    rw [entry_of_size_le outside]
    rfl

theorem isDeclared_congr (h : after.shape t = before.shape t) :
    after.isDeclared t = before.isDeclared t := by
  unfold isDeclared
  rw [h]

theorem lt_size_of_isDeclared (h : table.isDeclared t = true) : t < table.size := by
  apply lt_size_of_shape
  intro unknown
  unfold isDeclared at h
  rw [unknown] at h
  cases h

theorem Grows.refl (table : TypeTable) : Grows table table where
  size_le := Nat.le_refl _
  entry_eq _ _ _ := rfl
  record t h := by
    unfold isDeclared at h
    split at h
    · next record shape => exact ⟨record, shape⟩
    · cases h

/-- A shape that is complete does not change any more. -/
theorem Grows.shape_eq (h : Grows before after) (ht : t < before.size)
    (known : before.isDeclared t = false) : after.shape t = before.shape t :=
  congrArg TypeEntry.shape (h.entry_eq t ht known)

theorem Grows.trans {between : TypeTable} (first : Grows before between)
    (second : Grows between after) : Grows before after where
  size_le := Nat.le_trans first.size_le second.size_le
  entry_eq t ht known := by
    have same := first.entry_eq t ht known
    have known' : between.isDeclared t = false := by
      rw [isDeclared_congr (congrArg TypeEntry.shape same), known]
    rw [second.entry_eq t (Nat.lt_of_lt_of_le ht first.size_le) known', same]
  record t declared := by
    obtain ⟨record, shape⟩ := first.record t declared
    cases still : between.isDeclared t with
    | true => exact second.record t still
    | false =>
      have inside : t < between.size := lt_size_of_shape (by rw [shape]; exact Shape.noConfusion)
      exact ⟨record, (second.shape_eq inside still).trans shape⟩

theorem grows_add (table : TypeTable) (e : TypeEntry) : Grows table (table.add e) where
  size_le := by
    rw [size_add]
    exact Nat.le_succ _
  entry_eq t ht _ := entry_add_of_lt e ht
  record t declared := by
    obtain ⟨record, shape⟩ := (Grows.refl table).record t declared
    have same := entry_add_of_lt e (lt_size_of_isDeclared declared)
    exact ⟨record, (congrArg TypeEntry.shape same).trans shape⟩

/-! ## Sizes of a grown table -/

/-- What an entry says of its parts is right: their sizes are known, they are
inside, and those of a struct lie one behind the other. -/
structure Fits (table : TypeTable) (e : TypeEntry) : Prop where
  typedef : ∀ target, e.shape = .typedef target → target < table.size
  array : ∀ elem length, e.shape = .array elem length →
    table.Settled elem ∧ e.size = table.sizeOf elem * length
  inside : ∀ record, e.shape = .record record → ∀ f ∈ record.fields,
    table.Settled f.type ∧ f.offset + table.sizeOf f.type ≤ e.size
  apart : ∀ record, e.shape = .record record → record.isUnion = false →
    record.fields.Pairwise fun f g => f.offset + table.sizeOf f.type ≤ g.offset

/-- The invariant of a table that is put together in order. -/
structure Sound (table : TypeTable) : Prop where
  nonempty : 0 < table.size
  fits : ∀ t, table.Fits (table.entry t)

/-- What is known to be something is in the table. -/
theorem settled_of_shape (known : table.shape (table.strip t) ≠ .unknown)
    (complete : table.isDeclared (table.strip t) = false) : table.Settled t := by
  refine ⟨?_, complete⟩
  rcases Nat.lt_or_ge t table.size with inside | outside
  · exact inside
  · exact absurd (congrArg TypeEntry.shape (entry_of_size_le outside))
      (shape_ne_unknown_of_strip known)

/-- Typedefs lead to types of the table. -/
theorem Sound.stripWithin_lt (sound : table.Sound) :
    ∀ (looks : Nat) (t : TypeId), t < table.size → table.stripWithin looks t < table.size := by
  intro looks
  induction looks with
  | zero =>
    intro t _
    exact sound.nonempty
  | succ looks ih =>
    intro t ht
    by_cases typedef : ∃ target, table.shape t = .typedef target
    · obtain ⟨target, shape⟩ := typedef
      rw [stripWithin_of_typedef shape]
      exact ih target ((sound.fits t).typedef target shape)
    · rw [stripWithin_of_not_typedef fun target shape => typedef ⟨target, shape⟩]
      exact ht

/-- A typedef stays what it is, and what is none does not become one. -/
theorem Grows.shape_eq_typedef_iff (grows : Grows before after) (ht : t < before.size)
    (target : TypeId) : after.shape t = .typedef target ↔ before.shape t = .typedef target := by
  cases declared : before.isDeclared t with
  | false => rw [grows.shape_eq ht declared]
  | true =>
    obtain ⟨record, shape⟩ := (Grows.refl before).record t declared
    obtain ⟨record', shape'⟩ := grows.record t declared
    rw [shape, shape']
    exact ⟨Shape.noConfusion, Shape.noConfusion⟩

/-- Typedefs lead to the same types as before, by induction on the looks: a typedef
is complete from the start, and so are its targets. -/
theorem Grows.stripWithin_eq (grows : Grows before after) (sound : before.Sound) :
    ∀ (looks : Nat) (t : TypeId), t < before.size →
      after.stripWithin looks t = before.stripWithin looks t := by
  intro looks
  induction looks with
  | zero =>
    intro t _
    rfl
  | succ looks ih =>
    intro t ht
    by_cases typedef : ∃ target, before.shape t = .typedef target
    · obtain ⟨target, shape⟩ := typedef
      rw [stripWithin_of_typedef shape,
        stripWithin_of_typedef ((grows.shape_eq_typedef_iff ht target).mpr shape)]
      exact ih target ((sound.fits t).typedef target shape)
    · rw [stripWithin_of_not_typedef fun target shape => typedef ⟨target, shape⟩,
        stripWithin_of_not_typedef fun target shape =>
          typedef ⟨target, (grows.shape_eq_typedef_iff ht target).mp shape⟩]

/-- The type behind a settled one, as it was. -/
theorem Grows.resolve_eq (grows : Grows before after) (sound : before.Sound)
    (settled : before.Settled t) :
    after.strip t = before.strip t ∧ after.resolve t = before.resolve t := by
  have same : after.strip t = before.strip t := grows.stripWithin_eq sound stripLimit t settled.1
  refine ⟨same, ?_⟩
  unfold resolve
  rw [same]
  exact grows.entry_eq _ (sound.stripWithin_lt stripLimit t settled.1) settled.2

/-- A size that is settled stays. -/
theorem Grows.sizeOf_eq (grows : Grows before after) (sound : before.Sound)
    (settled : before.Settled t) : after.sizeOf t = before.sizeOf t :=
  congrArg TypeEntry.size (grows.resolve_eq sound settled).2

theorem Grows.settled (grows : Grows before after) (sound : before.Sound)
    (settled : before.Settled t) : after.Settled t := by
  obtain ⟨strip, resolve⟩ := grows.resolve_eq sound settled
  refine ⟨Nat.lt_of_lt_of_le settled.1 grows.size_le, ?_⟩
  have shape : after.shape (before.strip t) = before.shape (before.strip t) := by
    have entry : after.entry (after.strip t) = before.entry (before.strip t) := resolve
    rw [strip] at entry
    exact congrArg TypeEntry.shape entry
  rw [strip, isDeclared_congr shape]
  exact settled.2

/-- An entry that fits into a table fits into one that has grown out of it. -/
theorem Fits.of_grows {e : TypeEntry} (fits : before.Fits e) (grows : Grows before after)
    (sound : before.Sound) : after.Fits e where
  typedef target shape := Nat.lt_of_lt_of_le (fits.typedef target shape) grows.size_le
  array elem length shape := by
    obtain ⟨settled, size⟩ := fits.array elem length shape
    rw [grows.sizeOf_eq sound settled]
    exact ⟨grows.settled sound settled, size⟩
  inside record shape f hf := by
    obtain ⟨settled, le⟩ := fits.inside record shape f hf
    rw [grows.sizeOf_eq sound settled]
    exact ⟨grows.settled sound settled, le⟩
  apart record shape isUnion := by
    refine (fits.apart record shape isUnion).imp_of_mem ?_
    intro f g hf _ le
    rw [grows.sizeOf_eq sound (fits.inside record shape f hf).1]
    exact le

/-! ## New entries -/

/-- An entry without parts. -/
theorem fits_of_shape {e : TypeEntry} (typedef : ∀ target, e.shape ≠ .typedef target)
    (array : ∀ elem length, e.shape ≠ .array elem length)
    (record : ∀ record, e.shape = .record record → record.fields = []) : table.Fits e where
  typedef target shape := absurd shape (typedef target)
  array elem length shape := absurd shape (array elem length)
  inside r shape f hf := by
    rw [record r shape] at hf
    cases hf
  apart r shape _ := by
    rw [record r shape]
    exact .nil

theorem fits_unknown (table : TypeTable) : table.Fits .unknown :=
  fits_of_shape (fun _ => Shape.noConfusion) (fun _ _ => Shape.noConfusion)
    fun _ => Shape.noConfusion

/-- An array fits if its elements are settled and its size has not been cut. -/
theorem fits_arrayEntry {elem : TypeId} {length : Nat} (settled : table.Settled elem)
    (small : table.sizeOf elem * length < addressLimit) :
    table.Fits (table.arrayEntry elem length) where
  typedef _ := Shape.noConfusion
  array elem' length' shape := by
    cases shape
    exact ⟨settled, Nat.min_eq_left (Nat.le_sub_one_of_lt small)⟩
  inside _ := Shape.noConfusion
  apart _ := Shape.noConfusion

theorem fits_typedefEntry {name : String} {target : TypeId} (there : target < table.size) :
    table.Fits (typedefEntry name target) where
  typedef target' shape := by
    cases shape
    exact there
  array _ _ := Shape.noConfusion
  inside _ := Shape.noConfusion
  apart _ := Shape.noConfusion

theorem exists_member_of_mem_placeFrom {isUnion : Bool} {stop : Nat} {members : List Member}
    {f : Field} (h : f ∈ table.placeFrom isUnion stop members) :
    ∃ m ∈ members, f.type = m.type := by
  have hmap := List.mem_map_of_mem (f := fun f : Field => (f.name, f.type)) h
  rw [map_placeFrom, List.mem_map] at hmap
  obtain ⟨m, hm, same⟩ := hmap
  exact ⟨m, hm, (Prod.mk.inj same).2.symm⟩

/-- The members of a struct are placed behind what comes before them. -/
theorem le_offset_of_mem_placeFrom {stop : Nat} {members : List Member} {f : Field}
    (h : f ∈ table.placeFrom false stop members) : stop ≤ f.offset := by
  induction members generalizing stop with
  | nil => cases h
  | cons m rest ih =>
    have here := le_roundUp stop (table.alignOf m.type)
    rcases List.mem_cons.mp h with rfl | h
    · exact here
    · have behind := ih h
      rw [if_neg Bool.false_ne_true] at behind
      omega

/-- The fields of a struct lie one behind the other. -/
theorem pairwise_placeFrom (table : TypeTable) (stop : Nat) (members : List Member) :
    (table.placeFrom false stop members).Pairwise
      fun f g => f.offset + table.sizeOf f.type ≤ g.offset := by
  induction members generalizing stop with
  | nil => exact .nil
  | cons m rest ih =>
    refine List.pairwise_cons.mpr ⟨?_, ih _⟩
    intro g hg
    exact le_offset_of_mem_placeFrom hg

theorem le_extent_of_mem {fields : List Field} {f : Field} (h : f ∈ fields) :
    f.offset + table.sizeOf f.type ≤ table.extent fields := by
  induction fields with
  | nil => cases h
  | cons g rest ih =>
    unfold extent at ih ⊢
    rw [List.foldr_cons]
    rcases List.mem_cons.mp h with rfl | h
    · exact Nat.le_max_left _ _
    · exact Nat.le_trans (ih h) (Nat.le_max_right _ _)

/-- A struct or union fits if its members are settled. -/
theorem fits_layOut {name : String} {isUnion : Bool} {members : List Member}
    (settled : ∀ m ∈ members, table.Settled m.type) :
    table.Fits (table.layOut name isUnion members) where
  typedef _ := Shape.noConfusion
  array _ _ := Shape.noConfusion
  inside record shape f hf := by
    cases shape
    obtain ⟨m, hm, type⟩ := exists_member_of_mem_placeFrom hf
    refine ⟨type ▸ settled m hm, ?_⟩
    exact Nat.le_trans (le_extent_of_mem hf) (le_roundUp _ _)
  apart record shape notUnion := by
    cases shape
    have : isUnion = false := notUnion
    subst this
    exact pairwise_placeFrom table 0 members

/-! ## One operation -/

/-- A table with one entry replaced. -/
theorem entry_setIfInBounds (table : TypeTable) (e : TypeEntry) (t u : TypeId) :
    TypeTable.entry ⟨table.entries.setIfInBounds t e⟩ u =
      if u = t ∧ t < table.size then e else table.entry u := by
  unfold entry size
  rw [Array.getD_eq_getD_getElem?, Array.getD_eq_getD_getElem?, Array.getElem?_setIfInBounds]
  by_cases here : t = u
  · subst here
    rw [if_pos rfl]
    by_cases inside : t < table.entries.size
    · rw [if_pos inside, if_pos ⟨rfl, inside⟩]
      rfl
    · rw [if_neg inside, if_neg fun h => inside h.2,
        Array.getElem?_eq_none (Nat.le_of_not_lt inside)]
  · rw [if_neg here, if_neg fun h => here h.1.symm]

/-- What an operation does to the table: it adds an entry, or replaces that of a
declared struct. -/
inductive Change (table : TypeTable) (op : Op) : (after : TypeTable) → Prop where
  | add (e : TypeEntry) (fits : op.Orderly table → table.Fits e) : Change table op (table.add e)
  | complete (t : TypeId) (e : TypeEntry) (declared : table.isDeclared t = true)
      (record : ∃ record, e.shape = .record record) (fits : op.Orderly table → table.Fits e) :
      Change table op ⟨table.entries.setIfInBounds t e⟩

/-- An operation that succeeds adds an entry or completes a declaration. -/
theorem change_of_apply {op : Op} (h : table.apply op = .ok after) : Change table op after := by
  cases op with
  | entry e =>
    cases h
    exact .add e False.elim
  | primitive name size traits =>
    cases h
    exact .add _ fun _ => fits_of_shape (fun _ => Shape.noConfusion) (fun _ _ => Shape.noConfusion)
      fun _ => Shape.noConfusion
  | pointer target =>
    cases h
    exact .add _ fun _ => fits_of_shape (fun _ => Shape.noConfusion) (fun _ _ => Shape.noConfusion)
      fun _ => Shape.noConfusion
  | array elem length =>
    cases h
    exact .add _ fun orderly => fits_arrayEntry orderly.1 orderly.2
  | typedef name target =>
    cases h
    exact .add _ fun orderly => fits_typedefEntry orderly
  | declare name =>
    cases h
    refine .add _ fun _ => fits_of_shape (fun _ => Shape.noConfusion)
      (fun _ _ => Shape.noConfusion) ?_
    intro record shape
    cases shape
    rfl
  | record name isUnion members =>
    cases h
    exact .add _ fun orderly => fits_layOut orderly.1
  | complete t name isUnion members =>
    have h : table.complete t name isUnion members = .ok after := h
    unfold complete at h
    split at h
    · next fields isUnion' shape =>
      cases h
      refine .complete t _ ?_ ⟨_, rfl⟩ fun orderly => fits_layOut orderly.2.1
      unfold isDeclared
      rw [shape]
    · cases h

theorem Change.grows {op : Op} (h : Change table op after) : Grows table after := by
  cases h with
  | add e _ => exact grows_add table e
  | complete t e declared record _ =>
    refine ⟨?_, ?_, ?_⟩
    · exact Nat.le_of_eq Array.size_setIfInBounds.symm
    · intro u _ known
      -- The replaced entry is not among the known ones.
      rw [entry_setIfInBounds, if_neg]
      rintro ⟨rfl, -⟩
      rw [declared] at known
      cases known
    · intro u hu
      unfold shape
      rw [entry_setIfInBounds]
      split
      · exact record
      · exact (Grows.refl table).record u hu

/-- An operation keeps the table sound if it is orderly. -/
theorem Change.sound {op : Op} (h : Change table op after) (sound : table.Sound)
    (orderly : op.Orderly table) : after.Sound where
  nonempty := Nat.lt_of_lt_of_le sound.nonempty h.grows.size_le
  fits u := by
    have grows := h.grows
    cases h with
    | add e fits =>
      rcases Nat.lt_trichotomy u table.size with old | rfl | beyond
      · rw [entry_add_of_lt e old]
        exact (sound.fits u).of_grows grows sound
      · rw [entry_add_size]
        exact (fits orderly).of_grows grows sound
      · rw [entry_of_size_le (by rw [size_add]; exact beyond)]
        exact fits_unknown _
    | complete t e _ _ fits =>
      rw [entry_setIfInBounds]
      split
      · exact (fits orderly).of_grows grows sound
      · exact (sound.fits u).of_grows grows sound

/-! ## Any operations -/

/-- The step: an operation makes the table grow, or leaves it as it is if it
fails. -/
theorem grows_step (table : TypeTable) (op : Op) : Grows table (table.step op) := by
  unfold step
  cases happly : table.apply op with
  | ok after => exact (change_of_apply happly).grows
  | error fault => exact .refl table

/-- The step: an orderly operation keeps the table sound. -/
theorem sound_step {op : Op} (sound : table.Sound) (orderly : op.Orderly table) :
    (table.step op).Sound := by
  unfold step
  cases happly : table.apply op with
  | ok after => exact (change_of_apply happly).sound sound orderly
  | error fault => exact sound

/-- A run of operations lets the table grow, whether they are orderly or not. -/
theorem grows_foldl (ops : List Op) : ∀ table : TypeTable, Grows table (ops.foldl step table) := by
  induction ops with
  | nil => exact Grows.refl
  | cons op ops ih =>
    intro table
    exact (grows_step table op).trans (ih (table.step op))

/-- The first entry is the unknown type, whatever is done with the table. -/
theorem shape_unknownId_run (ops : List Op) : (run ops).shape unknownId = .unknown :=
  (grows_foldl ops empty).shape_eq Nat.one_pos rfl

/-- The run: so do any number of them. -/
theorem sound_foldl (ops : List Op) :
    ∀ table : TypeTable, table.Sound → table.Orderly ops → (ops.foldl step table).Sound := by
  induction ops with
  | nil =>
    intro table sound _
    exact sound
  | cons op ops ih =>
    intro table sound orderly
    exact ih (table.step op) (sound_step sound orderly.1) orderly.2

theorem sound_empty : empty.Sound where
  nonempty := Nat.one_pos
  fits t := by
    have unknown : empty.entry t = .unknown := by
      cases t with
      | zero => rfl
      | succ t => exact entry_of_size_le (Nat.succ_le_succ (Nat.zero_le t))
    rw [unknown]
    exact fits_unknown empty

/-- A table that was put together in order is sound. -/
theorem sound_run (orderly : empty.Orderly ops) : (run ops).Sound :=
  sound_foldl ops empty sound_empty orderly

/-! ## A table from a list -/

/-- The table of these entries, behind the unknown type. -/
def ofEntries (es : List TypeEntry) : TypeTable := run (es.map .entry)

theorem foldl_entry (es : List TypeEntry) (table : TypeTable) :
    (es.map .entry).foldl step table = ⟨table.entries ++ es.toArray⟩ := by
  induction es generalizing table with
  | nil => simp
  | cons e es ih =>
    rw [List.map_cons, List.foldl_cons, ih]
    simp [step, apply, add]

theorem size_ofEntries (es : List TypeEntry) : (ofEntries es).size = es.length + 1 := by
  unfold ofEntries run
  rw [foldl_entry]
  simp [size, empty]

/-- The entries come behind the unknown type, so that each is one place further
on. -/
theorem entry_ofEntries {es : List TypeEntry} {i : Nat} {e : TypeEntry} (h : es[i]? = some e) :
    (ofEntries es).entry (i + 1) = e := by
  unfold ofEntries run
  rw [foldl_entry]
  simp [entry, empty, Array.getD_eq_getD_getElem?, h]

/-- Entries that follow a rule. -/
theorem entry_ofEntries_range {rule : Nat → TypeEntry} {count i : Nat} (h : i < count) :
    (ofEntries ((List.range count).map rule)).entry (i + 1) = rule i := by
  refine entry_ofEntries ?_
  rw [List.getElem?_map, List.getElem?_range h]
  rfl

end HeapLens.TypeTable
