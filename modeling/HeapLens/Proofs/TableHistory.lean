import HeapLens.Proofs.TypeGrowth
import HeapLens.Session

/-!
# What becomes of an entry

The operations on a session's types all answer with a place in the table. Seven of
them add an entry, and give the place where it will be found; the eighth rewrites
the entry of a declared struct, in the place that it is told. What an operation does
to a session comes down to three equations:

> `run_alter_of_adds`: an operation that adds gives the old size of the table and
> puts its entry there.
> `run_alter_complete`, `run_alter_complete_of_not`: completing gives the place that
> it was told, if there is a declared struct in it; if not, it fails and the session
> is as it was.

So a place that is rewritten is in the table, and since what is written there is no
declaration, it is not rewritten again. That nothing else changes is `Grows`.
-/

namespace HeapLens

open TypeTable (Op Grows)

/-- The entry that an operation adds to the table. Completing adds none. -/
def TypeTable.Op.newEntry? (table : TypeTable) : Op → Option TypeEntry
  | .entry e => some e
  | .primitive name size traits => some (primitiveEntry name size traits)
  | .pointer target => some (pointerEntry target)
  | .array elem length => some (table.arrayEntry elem length)
  | .typedef name target => some (typedefEntry name target)
  | .declare name => some (declarationEntry name)
  | .record name isUnion members => some (table.layOut name isUnion members)
  | .complete _ _ _ _ => none

namespace Session

/-- Does an operation on the session's types, and gives the place that it answers
with. -/
def alter : Op → Action (Except Fault TypeId)
  | .entry e => .ok <$> addType fun _ => e
  | .primitive name size traits =>
    .ok <$> addType fun _ => TypeTable.primitiveEntry name size traits
  | .pointer target => .ok <$> addType fun _ => TypeTable.pointerEntry target
  | .array elem length => .ok <$> addType fun table => table.arrayEntry elem length
  | .typedef name target => .ok <$> addType fun _ => TypeTable.typedefEntry name target
  | .declare name => .ok <$> addType fun _ => TypeTable.declarationEntry name
  | .record name isUnion members => .ok <$> addType fun table => table.layOut name isUnion members
  | .complete declared name isUnion members => completeType declared name isUnion members

/-- The session after some operations on its types. -/
def alterAll (s : Session) (ops : List Op) : Session :=
  ops.foldl (fun s op => ((alter op).run s).2) s

/-- What comes of completing the struct at `t`: it succeeds if the struct is
declared there, and then the place is in the table and its entry is final; otherwise
it fails, and the session is as it was. -/
structure CompletesOnce (now : Session) (t : TypeId) (outcome : Except Fault TypeId × Session) :
    Prop where
  succeeds_iff : (∃ u, outcome.1 = .ok u) ↔ now.types.isDeclared t = true
  place : ∀ u, outcome.1 = .ok u → u = t ∧ t < now.types.size
  stays : ∀ u, outcome.1 = .ok u → ∀ later,
    (outcome.2.alterAll later).types.entry t = outcome.2.types.entry t
  once : ∀ u, outcome.1 = .ok u → ∀ later name isUnion members, ∃ fault,
    ((alter (.complete t name isUnion members)).run (outcome.2.alterAll later)).1 = .error fault ∧
      fault.code = .usage
  fails : ∀ fault, outcome.1 = .error fault → fault.code = .usage ∧ outcome.2 = now

end Session

/-! ## Completing -/

namespace TypeTable

variable {table : TypeTable} {t : TypeId} (name : String) (isUnion : Bool) (members : List Member)

/-- The table with the entry at `t` replaced by the struct or union made of
`members`. -/
def completed (table : TypeTable) (t : TypeId) (name : String) (isUnion : Bool)
    (members : List Member) : TypeTable :=
  ⟨table.entries.setIfInBounds t (table.layOut name isUnion members)⟩

theorem complete_of_declared (h : table.isDeclared t = true) :
    table.complete t name isUnion members = .ok (table.completed t name isUnion members) := by
  obtain ⟨record, shape⟩ := (Grows.refl table).record t h
  unfold isDeclared at h
  rw [shape] at h
  obtain ⟨fields, isUnion', isDeclaration⟩ := record
  obtain rfl : isDeclaration = true := h
  unfold complete
  rw [shape]
  rfl

/-- Nothing but a declaration is completed, and the fault names what was to be. -/
theorem complete_of_not_declared (h : table.isDeclared t = false) :
    table.complete t name isUnion members = .error (.notDeclaration (table.spell t)) := by
  unfold complete
  split
  · next shape =>
    unfold isDeclared at h
    rw [shape] at h
    cases h
  · rfl

/-- What was completed is no declaration. -/
theorem isDeclared_completed (h : t < table.size) :
    (table.completed t name isUnion members).isDeclared t = false := by
  unfold isDeclared shape completed
  rw [entry_setIfInBounds, if_pos ⟨rfl, h⟩]
  rfl

theorem size_completed : (table.completed t name isUnion members).size = table.size :=
  Array.size_setIfInBounds

theorem entry_completed_of_ne {u : TypeId} (h : u ≠ t) :
    (table.completed t name isUnion members).entry u = table.entry u := by
  unfold completed
  rw [entry_setIfInBounds, if_neg fun here => h here.1]

end TypeTable

/-! ## One operation -/

namespace Session

variable {s : Session} {t : TypeId} {name : String} {isUnion : Bool} {members : List Member}

/-- An operation that adds a type answers with its place. -/
theorem run_alter_of_adds {op : Op} {e : TypeEntry} (h : op.newEntry? s.types = some e) :
    (alter op).run s = (.ok s.types.size, { s with types := s.types.add e }) := by
  cases op <;> cases h <;> rfl

/-- A completion answers with the place of the declaration. -/
theorem run_alter_complete (h : s.types.isDeclared t = true) :
    (alter (.complete t name isUnion members)).run s =
      (.ok t, { s with types := s.types.completed t name isUnion members }) := by
  have done := TypeTable.complete_of_declared name isUnion members h
  simp only [alter, completeType, StateT.run_modifyGet, done]
  rfl

/-- An operation that fails leaves the session as it was. -/
theorem run_alter_complete_of_not (h : s.types.isDeclared t = false) :
    (alter (.complete t name isUnion members)).run s =
      (.error (.notDeclaration (s.types.spell t)), s) := by
  have refused := TypeTable.complete_of_not_declared name isUnion members h
  simp only [alter, completeType, StateT.run_modifyGet, refused]
  rfl

/-- An operation adds an entry or completes a struct. -/
theorem adds_or_completes (table : TypeTable) (op : Op) :
    (∃ e, op.newEntry? table = some e) ∨
      ∃ t name isUnion members, op = .complete t name isUnion members := by
  cases op with
  | complete t name isUnion members => exact .inr ⟨t, name, isUnion, members, rfl⟩
  | _ => exact .inl ⟨_, rfl⟩

/-- The only entry that an operation changes is that of a declared struct, which it
completes. -/
theorem complete_of_changed {op : Op} (ht : t < s.types.size)
    (changed : ((alter op).run s).2.types.entry t ≠ s.types.entry t) :
    s.types.isDeclared t = true ∧
      ∃ name isUnion members, op = .complete t name isUnion members := by
  rcases adds_or_completes s.types op with ⟨e, adds⟩ | ⟨u, name, isUnion, members, rfl⟩
  · rw [run_alter_of_adds adds] at changed
    exact absurd (TypeTable.entry_add_of_lt e ht) changed
  · cases declared : s.types.isDeclared u with
    | true =>
      rw [run_alter_complete declared] at changed
      obtain rfl : t = u := Decidable.byContradiction fun other =>
        changed (TypeTable.entry_completed_of_ne name isUnion members other)
      exact ⟨declared, name, isUnion, members, rfl⟩
    | false =>
      rw [run_alter_complete_of_not declared] at changed
      exact absurd rfl changed

/-- To the types of a session an operation does what it does to a table. -/
theorem types_alter (s : Session) (op : Op) : ((alter op).run s).2.types = s.types.step op := by
  cases op with
  | complete t name isUnion members =>
    unfold TypeTable.step TypeTable.apply
    dsimp only
    cases declared : s.types.isDeclared t with
    | true =>
      rw [run_alter_complete declared,
        TypeTable.complete_of_declared name isUnion members declared]
    | false =>
      rw [run_alter_complete_of_not declared,
        TypeTable.complete_of_not_declared name isUnion members declared]
  | _ => rfl

/-- Of a session's changes the table sees the operations, in their order. -/
theorem types_alterAll (ops : List Op) : ∀ s : Session,
    (s.alterAll ops).types = ops.foldl TypeTable.step s.types := by
  induction ops with
  | nil => exact fun _ => rfl
  | cons op ops ih =>
    intro s
    rw [List.foldl_cons, ← types_alter]
    exact ih ((alter op).run s).2

/-! ## Any operations -/

/-- The run: a session's table grows. -/
theorem grows_alterAll (s : Session) (ops : List Op) : Grows s.types (s.alterAll ops).types := by
  rw [types_alterAll]
  exact TypeTable.grows_foldl ops s.types

/-- The step: so it does with one operation. -/
theorem grows_alter (s : Session) (op : Op) : Grows s.types ((alter op).run s).2.types :=
  grows_alterAll s [op]

/-- An entry that is not that of a declared struct is final. -/
theorem final_of_not_declared (ht : t < s.types.size) (h : s.types.isDeclared t = false)
    (later : List Op) :
    (s.alterAll later).types.entry t = s.types.entry t ∧
      (s.alterAll later).types.isDeclared t = false := by
  have grows := grows_alterAll s later
  refine ⟨grows.entry_eq t ht h, ?_⟩
  rw [TypeTable.isDeclared_congr (grows.shape_eq ht h), h]

/-- Whichever state the session is in, a declaration is completed once. -/
theorem completesOnce (now : Session) (t : TypeId) (name : String) (isUnion : Bool)
    (members : List Member) :
    now.CompletesOnce t ((alter (.complete t name isUnion members)).run now) := by
  cases declared : now.types.isDeclared t with
  | true =>
    have inside := TypeTable.lt_size_of_isDeclared declared
    rw [run_alter_complete declared]
    have final := final_of_not_declared
      (s := { now with types := now.types.completed t name isUnion members })
      (Nat.lt_of_lt_of_eq inside (TypeTable.size_completed name isUnion members).symm)
      (TypeTable.isDeclared_completed name isUnion members inside)
    refine ⟨⟨fun _ => declared, fun _ => ⟨t, rfl⟩⟩, ?_, ?_, ?_, ?_⟩
    · intro u same
      cases same
      exact ⟨rfl, inside⟩
    · exact fun _ _ later => (final later).1
    · intro _ _ later name' isUnion' members'
      exact ⟨_, congrArg Prod.fst (run_alter_complete_of_not (final later).2), rfl⟩
    · intro fault failed
      cases failed
  | false =>
    rw [run_alter_complete_of_not declared]
    refine ⟨⟨?_, ?_⟩, ?_, ?_, ?_, ?_⟩
    · rintro ⟨u, found⟩
      cases found
    · intro declared'
      rw [declared] at declared'
      cases declared'
    · intro u found
      cases found
    · intro u found
      cases found
    · intro u found
      cases found
    · intro fault failed
      cases failed
      exact ⟨rfl, rfl⟩

/-- **Tables only grow, and declarations are completed at most once.** Whatever was
done with the types of a session, which began with the empty table: the first entry
is the unknown type, and so is what is beyond the table. No operation takes an entry
away; one that adds answers with the old size, where its entry then is; and the only
entry that changes is that of a declared struct which is completed. That succeeds
exactly where such a struct is, answers with its place, and is not done to it again;
where it fails it changes nothing. -/
theorem entries_stay (s : Session) (ops : List Op) :
    let now := alterAll { s with types := .empty } ops
    (0 < now.types.size ∧ now.types.entry 0 = .unknown ∧
      ∀ t, now.types.size ≤ t → now.types.entry t = now.types.entry 0) ∧
    (∀ op,
      let outcome := (alter op).run now
      now.types.size ≤ outcome.2.types.size ∧
      (∀ e, op.newEntry? now.types = some e →
        outcome.1 = .ok now.types.size ∧ outcome.2.types.size = now.types.size + 1 ∧
          outcome.2.types.entry now.types.size = e) ∧
      ∀ t, t < now.types.size → outcome.2.types.entry t ≠ now.types.entry t →
        now.types.isDeclared t = true ∧ outcome.1 = .ok t ∧
          ∃ name isUnion members, op = .complete t name isUnion members) ∧
    ∀ t name isUnion members,
      now.CompletesOnce t ((alter (.complete t name isUnion members)).run now) := by
  intro now
  have grows : Grows .empty now.types := grows_alterAll { s with types := .empty } ops
  have first : now.types.entry 0 = .unknown := grows.entry_eq 0 Nat.one_pos rfl
  refine ⟨⟨grows.size_le, first, ?_⟩, ?_, now.completesOnce⟩
  · intro t beyond
    rw [TypeTable.entry_of_size_le beyond, first]
  · intro op outcome
    have further : Grows now.types outcome.2.types := now.grows_alter op
    refine ⟨further.size_le, ?_, ?_⟩
    · intro e adds
      have done : outcome = (.ok now.types.size, { now with types := now.types.add e }) :=
        run_alter_of_adds adds
      rw [done]
      exact ⟨rfl, TypeTable.size_add now.types e, TypeTable.entry_add_size now.types e⟩
    · intro t inside changed
      obtain ⟨declared, name, isUnion, members, rfl⟩ := complete_of_changed inside changed
      have done : outcome = (.ok t, _) := run_alter_complete declared
      rw [done]
      exact ⟨declared, rfl, name, isUnion, members, rfl⟩

/-- A struct is declared, pointed to, and completed with a pointer to itself. Its
members are then asked for in vain, and the pointer is where it was. -/
theorem entries_stay_node :
    let now := Session.alterAll {} [.declare "Node", .pointer 1]
    let outcome := (alter (.complete 1 "Node" false [⟨"next", 2⟩])).run now
    now.types.size = 3 ∧
    outcome.1 = .ok 1 ∧
    outcome.2.types.entry 1 ≠ now.types.entry 1 ∧
    now.types.isDeclared 1 = true ∧
    outcome.2.types.entry 2 = now.types.entry 2 ∧
    (outcome.2.alterAll [.pointer 1, .complete 1 "Other" true []]).types.entry 1 =
      outcome.2.types.entry 1 ∧
    ∃ fault, ((alter (.complete 1 "Other" true [])).run outcome.2).1 = .error fault ∧
      fault.code = .usage := by
  intro now outcome
  obtain ⟨-, changes, completes⟩ := entries_stay {} [.declare "Node", .pointer 1]
  have completed : outcome.1 = .ok 1 := rfl
  have changed : outcome.2.types.entry 1 ≠ now.types.entry 1 := by decide
  have final := completes 1 "Node" false [⟨"next", 2⟩]
  refine ⟨by decide, completed, changed, ?_, by decide, ?_, ?_⟩
  · exact ((changes (.complete 1 "Node" false [⟨"next", 2⟩])).2.2 1 (by decide) changed).1
  · exact final.stays 1 completed _
  · exact final.once 1 completed [] "Other" true []

end Session

end HeapLens
