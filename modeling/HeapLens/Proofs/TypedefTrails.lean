import HeapLens.Proofs.Trails
import HeapLens.Proofs.TypedefTransparency

/-!
# Where typedefs lead

The typedefs from a type on make a trail (`typedefStep?`). It ends at a type that is
no typedef, which may be one that the table does not have; or it does not end, since
it comes back to where it was. Looking through typedefs is bounded by how many types
are looked at, and the last of these must be the one that is no typedef:

> `stripWithin_of_fullTrail`, `stripWithin_of_trail`: with `looks` looks, stripping
> goes to the end of a trail of less than `looks` typedefs, and gives up on one of
> so many.

So of the 100 looks 99 are for typedefs. Giving up comes to the unknown type, and as
the table holds that in its first place, what comes out is never a typedef.
-/

namespace HeapLens.TypeTable

/-- Where a typedef leads; it is its own mark. -/
def typedefStep? (table : TypeTable) (t : TypeId) : Option (TypeId × TypeId) :=
  match table.shape t with
  | .typedef target => some (t, target)
  | _ => none

variable {table : TypeTable} {t u : TypeId} {typedefs : List TypeId}

theorem shape_of_typedefStep? {name target : TypeId}
    (h : table.typedefStep? t = some (name, target)) : table.shape t = .typedef target := by
  unfold typedefStep? at h
  split at h
  · next shape =>
    cases h
    exact shape
  · cases h

theorem typedefStep?_eq_none_iff :
    table.typedefStep? t = none ↔ ∀ target, table.shape t ≠ .typedef target := by
  unfold typedefStep?
  split
  · next target shape => exact iff_of_false (Option.some_ne_none _) fun other => other target shape
  · next other => exact iff_of_true rfl other

/-- What the table does not have is the unknown type, and no typedef. -/
theorem typedefStep?_of_size_le (h : table.size ≤ t) : table.typedefStep? t = none := by
  rw [typedefStep?_eq_none_iff, shape, entry_of_size_le h]
  exact fun _ => Shape.noConfusion

/-- A look for each typedef of a trail, and the others for what comes behind. -/
theorem stripWithin_of_trail_add (trail : Trail table.typedefStep? t typedefs u) (looks : Nat) :
    table.stripWithin (looks + typedefs.length) t = table.stripWithin looks u := by
  induction trail with
  | here t => rfl
  | @step t target u name typedefs leads _ ih =>
    rw [List.length_cons, ← Nat.add_assoc, stripWithin_of_typedef (shape_of_typedefStep? leads), ih]

/-- With more looks than there are typedefs the end of the trail is found. -/
theorem stripWithin_of_fullTrail (full : FullTrail table.typedefStep? t typedefs u) {looks : Nat}
    (short : typedefs.length < looks) : table.stripWithin looks t = u := by
  obtain ⟨more, rfl⟩ := Nat.exists_eq_add_of_lt short
  rw [show typedefs.length + more + 1 = more + 1 + typedefs.length by omega,
    stripWithin_of_trail_add full.trail]
  exact stripWithin_of_not_typedef (typedefStep?_eq_none_iff.mp full.ends) more

/-- With as many looks as there are typedefs they are used up before the end. -/
theorem stripWithin_of_trail (trail : Trail table.typedefStep? t typedefs u) :
    table.stripWithin typedefs.length t = unknownId := by
  have spent := stripWithin_of_trail_add trail 0
  rwa [Nat.zero_add] at spent

/-- Where the typedefs do not end in time, stripping gives up. -/
theorem strip_of_long
    (long : ∀ typedefs u, FullTrail table.typedefStep? t typedefs u → 99 < typedefs.length) :
    table.strip t = unknownId := by
  rcases full_or_trail table.typedefStep? stripLimit t with
    ⟨_, _, full, short⟩ | ⟨_, _, trail, all⟩
  · exact absurd (long _ _ full) (Nat.not_lt_of_le (Nat.le_of_lt_succ short))
  · rw [strip, ← all]
    exact stripWithin_of_trail trail

/-- **Stripping follows up to 99 typedefs.** If there are no more of them from a
type on, it comes to exactly the type behind, which may be one that the table does
not have. If there are more, or if they come back to where they were, it comes to
the unknown type. In a table that was put together by operations, what it comes to
is no typedef, and is stripped to itself. -/
theorem strip_follows_typedefs (table : TypeTable) (t : TypeId) :
    (∀ typedefs u, FullTrail table.typedefStep? t typedefs u → typedefs.length ≤ 99 →
      table.strip t = u) ∧
    ((∀ typedefs u, FullTrail table.typedefStep? t typedefs u → 99 < typedefs.length) →
      table.strip t = unknownId) ∧
    (∀ before u name round, Trail table.typedefStep? t before u →
      Trail table.typedefStep? u (name :: round) u → table.strip t = unknownId) ∧
    (∀ u, table.size ≤ u → table.entry u = .unknown ∧ table.typedefStep? u = none) ∧
    ∀ ops, table = run ops →
      table.typedefStep? (table.strip t) = none ∧ table.strip (table.strip t) = table.strip t := by
  refine ⟨?_, strip_of_long, ?_, ?_, ?_⟩
  · intro typedefs u full short
    exact stripWithin_of_fullTrail full (Nat.lt_succ_of_le short)
  · intro before u name round trail cycle
    refine strip_of_long ?_
    intro typedefs w full
    exact absurd full (not_fullTrail_of_cycle trail cycle)
  · intro u beyond
    exact ⟨entry_of_size_le beyond, typedefStep?_of_size_le beyond⟩
  · intro ops built
    have unknown : table.shape unknownId = .unknown := by
      rw [built]
      exact shape_unknownId_run ops
    exact ⟨typedefStep?_eq_none_iff.mpr (shape_strip_ne_typedef unknown t), strip_strip unknown t⟩

/-! ### Long lines of typedefs -/

/-- So many typedefs, each of the next one, and the last of a type that the table
does not have. -/
def typedefLine (count : Nat) : TypeTable :=
  ofEntries ((List.range count).map fun i => typedefEntry "next_t" (i + 2))

theorem typedefStep?_typedefLine {count i : Nat} (h : i < count) :
    (typedefLine count).typedefStep? (i + 1) = some (i + 1, i + 2) := by
  have entry : (typedefLine count).entry (i + 1) = typedefEntry "next_t" (i + 2) :=
    entry_ofEntries_range h
  unfold typedefStep? shape
  rw [entry]
  rfl

/-- From a typedef on the trail takes all that are left. -/
theorem trail_typedefLine {count : Nat} (left : Nat) : ∀ {i : Nat}, i + left = count →
    Trail (typedefLine count).typedefStep? (i + 1) (List.range' (i + 1) left) (count + 1) := by
  induction left with
  | zero =>
    intro i total
    rw [← total]
    exact .here _
  | succ left ih =>
    intro i total
    exact .step (typedefStep?_typedefLine (by omega)) (ih (by omega))

theorem size_typedefLine (count : Nat) : (typedefLine count).size = count + 1 := by
  unfold typedefLine
  rw [size_ofEntries, List.length_map, List.length_range]

/-- The trail goes through all of them, and ends behind the last. -/
theorem fullTrail_typedefLine (count : Nat) :
    FullTrail (typedefLine count).typedefStep? 1 (List.range' 1 count) (count + 1) where
  trail := trail_typedefLine count (Nat.zero_add count)
  ends := typedefStep?_of_size_le (Nat.le_of_eq (size_typedefLine count))

/-- Of 99 typedefs stripping finds the end, which is beyond the table, and of 100 it
does not; nor of one typedef of itself. -/
theorem strip_follows_typedefs_ninety_nine :
    (typedefLine 99).strip 1 = 100 ∧ (typedefLine 99).entry 100 = .unknown ∧
      (typedefLine 99).strip 100 = 100 ∧ (typedefLine 100).strip 1 = unknownId ∧
      (ofEntries [typedefEntry "loop_t" 1]).strip 1 = unknownId := by
  obtain ⟨follows, -, -, beyond, again⟩ := strip_follows_typedefs (typedefLine 99) 1
  have reached : (typedefLine 99).strip 1 = 100 :=
    follows _ _ (fullTrail_typedefLine 99) (Nat.le_of_eq List.length_range')
  refine ⟨reached, ?_, ?_, ?_, ?_⟩
  · exact (beyond 100 (Nat.le_of_eq (size_typedefLine 99))).1
  · have still := (again _ rfl).2
    rwa [reached] at still
  · refine (strip_follows_typedefs (typedefLine 100) 1).2.1 ?_
    intro typedefs u full
    rw [(full.unique (fullTrail_typedefLine 100)).1, List.length_range']
    exact Nat.lt_succ_self 99
  · exact (strip_follows_typedefs (ofEntries [typedefEntry "loop_t" 1]) 1).2.2.1 [] 1 1 []
      (.here 1) (.step rfl (.here 1))

end HeapLens.TypeTable
