import HeapLens.Display
import HeapLens.Memory.Snapshot
import HeapLens.Types.Layout
import Mathlib.Data.List.Chain

/-!
# Showing a value ends

Showing a value calls itself for what the value contains or points to. `recurse` is
one such call, with the calls inside it handed in: what it needs to know of them is
what `Nested` says.

> `recurse_congr`: a call depends on the calls inside it at nested ones only. These
> are one level deeper, below the last level; or on the same level, from a pointer
> that no hook claims to what it points to, a struct or an array.

Levels alone do not go down. What goes down is `room`, which counts each level that
is left twice, and the level of a pointer once more than that of anything else
(`room_lt_of_nested`): a pointer leads to something on its own level, but not to
another pointer. With as many calls nested into each other as there is room for, the
recursion has come to its end, whatever types and memory look like (`within_eq`).
-/

namespace HeapLens.Display

/-- A call: a value is to be shown, so many levels deep. -/
structure Call where
  depth : Nat
  value : Value
  deriving DecidableEq, Repr

section

variable (program : Program) (settings : Settings) (registry : Registry)

/-- How a call at `depth` shows what is inside a value; on the last level it does
not. -/
def inside (self : Call → Traced String) (depth : Nat) : Option (Value → Traced String) :=
  if depth < settings.maxShownDepth then some fun w => self ⟨depth + 1, w⟩ else none

/-- One call. The calls inside it are made through `self`. -/
def recurse (self : Call → Traced String) (call : Call) : Traced String := do
  match ← registry.lookup program settings call.value with
  | some printer => claimed program settings (inside settings self call.depth) printer
  | none =>
    if program.isPointer call.value then
      pointer program (fun w => self ⟨call.depth, w⟩) call.value
    else unclaimed program settings (inside settings self call.depth) call.value

/-- Calls nested into each other up to a number of times; from there on they are
left to `start`. -/
def within (start : Call → Traced String) : (nesting : Nat) → Call → Traced String
  | 0 => start
  | nesting + 1 => recurse program settings registry (within start nesting)

/-- A call `caller` makes the call `callee`: what comes out of the one depends on
the other. No call is made in secret, since its events are among those of the
caller. -/
def Makes (caller callee : Call) : Prop :=
  ∃ self self' : Call → Traced String, (∀ call, call ≠ callee → self call = self' call) ∧
    recurse program settings registry self caller ≠ recurse program settings registry self' caller

/-- The calls that a call may make. -/
inductive Nested : (caller callee : Call) → Prop where
  /-- What is inside a value is one level deeper. -/
  | deeper {depth : Nat} {v w : Value} (below : depth < settings.maxShownDepth) :
      Nested ⟨depth, v⟩ ⟨depth + 1, w⟩
  /-- What a pointer points to is on its level. -/
  | through {depth : Nat} {v w : Value}
      (unclaimed : (registry.lookup program settings v).value = none)
      (pointer : program.isPointer v = true) (leads : (program.dereference v).result = .ok w)
      (aggregate : program.isAggregate w = true) (straight : program.isPointer w = false) :
      Nested ⟨depth, v⟩ ⟨depth, w⟩

/-- How many calls can still be nested into each other, from this one on. -/
def room (call : Call) : Nat :=
  2 * (settings.maxShownDepth - call.depth) + if program.isPointer call.value then 2 else 1

end

variable {program : Program} {settings : Settings} {registry : Registry}

/-! ## What a call depends on -/

/-- Only structs and arrays have parts. -/
theorem isAggregate_of_hasParts {v : Value} (h : (hasParts program v).value = true) :
    program.isAggregate v = true := by
  unfold hasParts Program.parts at h
  unfold Program.isAggregate
  cases hshape : program.shape v with
  | record record => rfl
  | array elem length => rfl
  | unknown | primitive traits | pointer goal reference | typedef goal =>
    rw [hshape] at h
    exact absurd h Bool.false_ne_true

/-- A pointer is followed to a struct or array only. -/
theorem pointer_congr {follow follow' : Value → Traced String} {v : Value}
    (h : ∀ w, (program.dereference v).result = .ok w → program.isAggregate w = true →
      follow w = follow' w) : pointer program follow v = pointer program follow' v := by
  unfold pointer
  refine Traced.bind_eq_bind ?_
  cases (program.readPointer v).run.value with
  | error fault => rfl
  | ok addr =>
    show (if addr = 0 then _ else _) = (if addr = 0 then _ else _)
    split
    · rfl
    · refine Traced.bind_eq_bind ?_
      cases leads : (program.dereference v).run.value with
      | error fault => rfl
      | ok w =>
        refine Traced.bind_eq_bind ?_
        cases parts : (hasParts program w).value with
        | false => rfl
        | true =>
          show (follow w >>= _) = (follow' w >>= _)
          rw [h w leads (isAggregate_of_hasParts parts)]

/-- What a call gives depends on the nested calls only. -/
theorem recurse_congr {self self' : Call → Traced String} {caller : Call}
    (h : ∀ callee, Nested program settings registry caller callee → self callee = self' callee) :
    recurse program settings registry self caller =
      recurse program settings registry self' caller := by
  obtain ⟨depth, v⟩ := caller
  have hinside : inside settings self depth = inside settings self' depth := by
    unfold inside
    split
    · next below =>
      congr 1
      funext w
      exact h _ (.deeper below)
    · rfl
  unfold recurse
  rw [hinside]
  refine Traced.bind_eq_bind ?_
  cases unclaimed : (registry.lookup program settings v).value with
  | some printer => rfl
  | none =>
    show (if program.isPointer v = true then _ else _) =
      (if program.isPointer v = true then _ else _)
    split
    · next hpointer =>
      refine pointer_congr ?_
      intro w leads aggregate
      have straight := Program.isPointer_eq_false_of_isAggregate aggregate
      exact h _ (.through unclaimed hpointer leads aggregate straight)
    · rfl

/-- These are all the calls that a call makes. -/
theorem nested_of_makes {caller callee : Call} (h : Makes program settings registry caller callee) :
    Nested program settings registry caller callee := by
  obtain ⟨self, self', hself, hdiffer⟩ := h
  by_contra hnot
  -- The two ways to answer calls differ for `callee` alone, so they agree on all
  -- nested calls.
  refine hdiffer (recurse_congr ?_)
  intro call hcall
  refine hself call ?_
  rintro rfl
  exact hnot hcall

/-! ## What goes down -/

theorem room_pos (call : Call) : 0 < room program settings call := by
  unfold room
  split <;> omega

/-- On each level there is room for a value and for what it points to. -/
theorem room_le (call : Call) : room program settings call ≤ 2 * (settings.maxShownDepth + 1) := by
  unfold room
  split <;> omega

/-- A call inside another one has less room. -/
theorem room_lt_of_nested {caller callee : Call}
    (h : Nested program settings registry caller callee) :
    room program settings callee < room program settings caller := by
  cases h with
  | @deeper depth v w below =>
    -- A level is worth two calls, which is more than being a pointer makes up for.
    unfold room
    dsimp only
    split <;> split <;> omega
  | @through depth v w unclaimed pointer leads aggregate straight =>
    unfold room
    dsimp only
    rw [if_pos pointer, straight, if_neg Bool.false_ne_true]
    omega

/-- A call inside another one is never below the last level. -/
theorem depth_le_of_nested {caller callee : Call}
    (h : Nested program settings registry caller callee)
    (hle : caller.depth ≤ settings.maxShownDepth) : callee.depth ≤ settings.maxShownDepth := by
  cases h with
  | deeper below => exact below
  | through => exact hle

/-- Calls inside each other: there are no more of them than there was room for. -/
theorem length_le_room {caller : Call} {calls : List Call}
    (h : List.IsChain (Nested program settings registry) (caller :: calls)) :
    calls.length + 1 ≤ room program settings caller := by
  induction calls generalizing caller with
  | nil => exact room_pos caller
  | cons callee calls ih =>
    obtain ⟨hnested, hrest⟩ := List.isChain_cons_cons.mp h
    have hlt := room_lt_of_nested hnested
    have hle := ih hrest
    rw [List.length_cons]
    omega

/-- By induction along the chain, none of its calls is. -/
theorem depth_le_of_chain {caller : Call} {calls : List Call}
    (h : List.IsChain (Nested program settings registry) (caller :: calls))
    (hle : caller.depth ≤ settings.maxShownDepth) :
    ∀ call ∈ calls, call.depth ≤ settings.maxShownDepth := by
  induction calls generalizing caller with
  | nil =>
    intro call hcall
    cases hcall
  | cons callee calls ih =>
    obtain ⟨hnested, hrest⟩ := List.isChain_cons_cons.mp h
    have hhere := depth_le_of_nested hnested hle
    intro call hcall
    rcases List.mem_cons.mp hcall with rfl | hcall
    · exact hhere
    · exact ih hrest hhere call hcall

/-! ## The calls agree with the levels -/

/-- What is not a pointer is shown like the target of one. -/
theorem onLevel_eq_target {deeper : Option (Value → Traced String)} {v : Value}
    (h : program.isPointer v = false) :
    onLevel program settings registry deeper v = target program settings registry deeper v := by
  unfold onLevel target
  rw [h]
  rfl

/-- What a call is to give: the value, with the levels that are left at its
depth. -/
def answer (program : Program) (settings : Settings) (registry : Registry) (call : Call) :
    Traced String :=
  withLevels program settings registry (settings.maxShownDepth - call.depth) call.value

/-- A level is rendered by the level below it, if there is one. -/
theorem answer_eq_onLevel (depth : Nat) (v : Value) :
    answer program settings registry ⟨depth, v⟩ =
      onLevel program settings registry (inside settings (answer program settings registry) depth)
        v := by
  unfold inside
  split
  · next below =>
    show withLevels program settings registry (settings.maxShownDepth - depth) v = _
    rw [show settings.maxShownDepth - depth = settings.maxShownDepth - (depth + 1) + 1 by omega]
    rfl
  · next last =>
    show withLevels program settings registry (settings.maxShownDepth - depth) v = _
    rw [show settings.maxShownDepth - depth = 0 by omega]
    rfl

/-- The levels answer their own calls. -/
theorem recurse_answer (call : Call) :
    recurse program settings registry (answer program settings registry) call =
      answer program settings registry call := by
  obtain ⟨depth, v⟩ := call
  rw [answer_eq_onLevel]
  unfold recurse onLevel
  refine Traced.bind_eq_bind ?_
  cases (registry.lookup program settings v).value with
  | some printer => rfl
  | none =>
    show (if program.isPointer v = true then _ else _) =
      (if program.isPointer v = true then _ else _)
    split
    · refine pointer_congr ?_
      intro w _ aggregate
      -- Here the two differ: the level follows a pointer to `target`, which does
      -- not look for another pointer.
      rw [answer_eq_onLevel,
        onLevel_eq_target (Program.isPointer_eq_false_of_isAggregate aggregate)]
    · rfl

/-- With as many calls nested into each other as there is room for, it does not
matter how the calls beyond these would go. -/
theorem within_eq (start : Call → Traced String) :
    ∀ (nesting : Nat) (call : Call), room program settings call ≤ nesting →
      within program settings registry start nesting call =
        answer program settings registry call := by
  intro nesting
  induction nesting with
  | zero =>
    intro call hroom
    exact absurd hroom (Nat.not_le_of_lt (room_pos call))
  | succ nesting ih =>
    intro call hroom
    rw [within, ← recurse_answer]
    -- Nested calls have less room, so one nesting less is enough for them.
    refine recurse_congr ?_
    intro callee hcallee
    have hlt := room_lt_of_nested hcallee
    exact ih callee (by omega)

/-- **Showing a value ends.** Each call inside another is a nested one, there is no
endless descent, a value at depth zero leads to no call beyond the last level and to
no more than two nested ones for each level; and so many of them are all that `line`
is made of. -/
theorem display_ends (program : Program) (settings : Settings) (registry : Registry) :
    (∀ caller callee, Makes program settings registry caller callee →
      Nested program settings registry caller callee) ∧
    (WellFounded fun callee caller => Makes program settings registry caller callee) ∧
    (∀ (v : Value) (calls : List Call),
      List.IsChain (Makes program settings registry) (⟨0, v⟩ :: calls) →
      (∀ call ∈ calls, call.depth ≤ settings.maxShownDepth) ∧
        calls.length + 1 ≤ 2 * (settings.maxShownDepth + 1)) ∧
    (∀ (start : Call → Traced String) (v : Value) (nesting : Nat),
      2 * (settings.maxShownDepth + 1) ≤ nesting →
      within program settings registry start nesting ⟨0, v⟩ =
        line program settings registry v) := by
  refine ⟨fun _ _ => nested_of_makes, ?_, ?_, ?_⟩
  · refine Subrelation.wf ?_ (measure (room program settings)).wf
    intro callee caller h
    exact room_lt_of_nested (nested_of_makes h)
  · intro v calls h
    have hnested : List.IsChain (Nested program settings registry) (⟨0, v⟩ :: calls) :=
      h.imp fun _ _ => nested_of_makes
    refine ⟨depth_le_of_chain hnested (Nat.zero_le _), ?_⟩
    exact Nat.le_trans (length_le_room hnested) (room_le _)
  · intro start v nesting h
    exact within_eq start nesting ⟨0, v⟩ (Nat.le_trans (room_le _) h)

/-! ### A node that points to itself -/

/-- The types of a node with one pointer to a node. -/
def nodeTypes : TypeTable :=
  let types := TypeTable.empty.add (TypeTable.pointerEntry 2)
  types.add (types.layOut "Node" false [⟨"next", 1⟩])

/-- A node at its own address. -/
def nodeProgram : Program :=
  ⟨nodeTypes, Snapshot.memory ⟨[⟨0x1000, LittleEndian.toBytes 8 0x1000⟩]⟩⟩

/-- Gives a text for one call, and none for the others. -/
def only (callee : Call) (text : String) (call : Call) : Traced String :=
  ⟨if call = callee then text else "", []⟩

/-- To find a call it is enough to change the text that it gives. -/
theorem makes_of_text {program : Program} {settings : Settings} {registry : Registry}
    {caller callee : Call}
    (h : (recurse program settings registry (only callee "x") caller).value ≠
      (recurse program settings registry (only callee "y") caller).value) :
    Makes program settings registry caller callee := by
  refine ⟨only callee "x", only callee "y", ?_, fun same => h (congrArg Traced.value same)⟩
  intro call hne
  unfold only
  rw [if_neg hne, if_neg hne]

/-- With one level the calls on the node go four deep, which is as deep as they
can. -/
theorem display_ends_node :
    List.IsChain (Makes nodeProgram { maxShownDepth := 1 } .empty)
      [⟨0, .stored 0x1000 1⟩, ⟨0, .stored 0x1000 2⟩, ⟨1, .stored 0x1000 1⟩,
        ⟨1, .stored 0x1000 2⟩] ∧
    (∀ call ∈ [Call.mk 0 (.stored 0x1000 2), ⟨1, .stored 0x1000 1⟩, ⟨1, .stored 0x1000 2⟩],
      call.depth ≤ 1) ∧ 3 + 1 ≤ 2 * (1 + 1) := by
  have hchain : List.IsChain (Makes nodeProgram { maxShownDepth := 1 } .empty)
      [⟨0, .stored 0x1000 1⟩, ⟨0, .stored 0x1000 2⟩, ⟨1, .stored 0x1000 1⟩,
        ⟨1, .stored 0x1000 2⟩] :=
    .cons_cons (makes_of_text (by decide)) (.cons_cons (makes_of_text (by decide))
      (.cons_cons (makes_of_text (by decide)) (.singleton _)))
  exact ⟨hchain, (display_ends nodeProgram { maxShownDepth := 1 } .empty).2.2.1 _ _ hchain⟩

end HeapLens.Display
