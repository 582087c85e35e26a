import HeapLens.Memory.Snapshot
import HeapLens.Proofs.Alike

/-!
# Through one pointer a container shows the same

The runtime's containers are structs, which programs mostly have pointers to. A
value is recognised, opened and tested for null with one pointer looked through,
each on a way of its own:

> `PointsTo`: a pointer, not null, to a struct or union. What is in the struct may
> be unreadable.

Of such a pointer and its target all three come to the same: the name is that of the
target's type (`subjectName`), the container that is opened is the target
(`openedAlike`), and neither is null (`isNullPointer`). All else goes on from there.
What is read differs, since the pointer may itself be in memory.
-/

namespace HeapLens

/-- The value `p` is a pointer to a struct or union of type `target` at `addr`. -/
structure Program.PointsTo (program : Program) (p : Value) (addr : Nat) (target : TypeId) :
    Prop where
  pointer : ∃ reference, program.shape p = .pointer target reference
  read : (program.readPointer p).result = .ok addr
  notNull : addr ≠ 0
  record : ∃ record, program.types.shape (program.types.strip target) = .record record

/-- The hook is the first one to claim the value. -/
def Hook.ClaimsFirst (hook : Hook) (program : Program) (settings : Settings) (registry : Registry)
    (v : Value) : Prop :=
  ∃ front behind, registry.hooks = front ++ hook :: behind ∧
    (∀ other ∈ front, (other.claim program settings v).value = none) ∧
    (hook.claim program settings v).value ≠ none

variable {program : Program} {settings : Settings} {registry : Registry} {p : Value} {addr : Nat}
  {target : TypeId}

namespace Program.PointsTo

theorem isPointer (h : program.PointsTo p addr target) : program.isPointer p = true := by
  obtain ⟨reference, pointer⟩ := h.pointer
  exact isPointer_iff.mpr ⟨target, reference, pointer⟩

/-- The target is no pointer, so that a second one is never followed. -/
theorem isPointer_target (h : program.PointsTo p addr target) :
    program.isPointer (.stored addr target) = false := by
  obtain ⟨record, shape⟩ := h.record
  refine isPointer_eq_false_of_isAggregate ?_
  unfold isAggregate
  rw [show program.shape (.stored addr target) = .record record from shape]

/-- The target is reached, even if nothing of it can be read. -/
theorem dereference (h : program.PointsTo p addr target) :
    (program.dereference p).result = .ok (.stored addr target) := by
  obtain ⟨reference, pointer⟩ := h.pointer
  exact result_dereference_of_pointer pointer h.read h.notNull

/-! ## Recognised alike -/

/-- A struct or union has a name, whatever typedefs stand before it. -/
theorem subjectName (h : program.PointsTo p addr target) :
    Container.subjectName program p = .ok (program.types.spell target) ∧
      Container.subjectName program (.stored addr target) = .ok (program.types.spell target) := by
  unfold Container.subjectName
  rw [h.isPointer, h.isPointer_target, if_pos rfl, if_neg Bool.false_ne_true]
  constructor
  · obtain ⟨reference, pointer⟩ := h.pointer
    unfold pointeeName
    rw [pointer]
  · obtain ⟨record, shape⟩ := h.record
    have known : program.types.shape target ≠ .unknown := by
      refine TypeTable.shape_ne_unknown_of_strip ?_
      rw [shape]
      intro unknown
      cases unknown
    unfold typeName
    dsimp only [Value.stored]
    split
    · next unknown => exact absurd unknown known
    · rfl

/-- Both are recognised as the same container, or both as none. -/
theorem ofValue?_eq (h : program.PointsTo p addr target) (settings : Settings) :
    Container.ofValue? program settings p =
      Container.ofValue? program settings (.stored addr target) := by
  unfold Container.ofValue?
  rw [h.subjectName.1, h.subjectName.2]

/-! ## Shown alike -/

/-- Both open as the target. -/
theorem openedAlike (h : program.PointsTo p addr target) :
    program.OpenedAlike p (.stored addr target) := by
  obtain ⟨reference, pointer⟩ := h.pointer
  refine .one ((quiet_openContainer program _).alike (quiet_openContainer program _) ?_)
  have opened : (program.openContainer p).result = .ok (some (.stored addr target)) :=
    result_openContainer_eq_some_iff.mpr (.target pointer h.read h.notNull)
  rw [opened, openContainer_of_not_pointer h.isPointer_target]
  rfl

/-- Neither value is null: the one is a pointer that was read as something else, and
the other is no pointer. -/
theorem isNullPointer (h : program.PointsTo p addr target) :
    (program.isNullPointer p).Alike (program.isNullPointer (.stored addr target)) := by
  unfold Program.isNullPointer
  rw [h.isPointer, h.isPointer_target, if_pos rfl, if_neg Bool.false_ne_true]
  have read : (program.readPointer p).run.value = .ok addr := h.read
  have quiet : (program.readPointer p).run.notes = [] := quiet_readPointer program p
  constructor
  · rw [Traced.value_bind, read]
    exact beq_eq_false_iff_ne.mpr h.notNull
  · rw [Traced.notes_bind, read, quiet]
    rfl

theorem shownAlike (h : program.PointsTo p addr target) (settings : Settings) (c : Container) :
    Printer.ShownAlike program settings (.ofContainer p c) (.ofContainer (.stored addr target) c) :=
  Printer.shownAlike_of_opened h.openedAlike h.isNullPointer c.named

end Program.PointsTo

/-! ## The display -/

/-- The hook that is the first to claim a value finds its printer. -/
theorem Hook.ClaimsFirst.value_lookup {hook : Hook} {v : Value}
    (h : hook.ClaimsFirst program settings registry v) :
    (registry.lookup program settings v).value = (hook.claim program settings v).value := by
  obtain ⟨front, behind, hooks, declined, claimed⟩ := h
  unfold Registry.lookup
  rw [hooks]
  clear hooks
  -- The hooks in front decline one after the other.
  induction front with
  | nil =>
    rw [List.nil_append, firstClaim, Traced.value_bind]
    cases found : (hook.claim program settings v).value with
    | none => exact absurd found claimed
    | some printer => rfl
  | cons other rest ih =>
    rw [List.cons_append, firstClaim, Traced.value_bind, declined other List.mem_cons_self]
    exact ih fun another there => declined another (List.mem_cons_of_mem _ there)

/-- What the runtime's hook claims is a container, and is shown as that. -/
theorem Hook.exists_container_of_runtime {v : Value}
    (h : Hook.runtime.ClaimsFirst program settings registry v) :
    ∃ c, Container.ofValue? program settings v = some c ∧
      (registry.lookup program settings v).value = some (.ofContainer v c) := by
  rw [h.value_lookup]
  -- What is in front of the hook does not matter any more.
  obtain ⟨-, -, -, -, claimed⟩ := h
  have claim : (runtime.claim program settings v).value =
      (Container.ofValue? program settings v).map (Printer.ofContainer v) := rfl
  rw [claim] at claimed ⊢
  cases recognised : Container.ofValue? program settings v with
  | none =>
    rw [recognised] at claimed
    exact absurd rfl claimed
  | some c => exact ⟨c, rfl, rfl⟩

/-- Printers that show alike make the same line. -/
theorem Display.value_line_of_lookup {v w : Value} {p q : Printer}
    (hv : (registry.lookup program settings v).value = some p)
    (hw : (registry.lookup program settings w).value = some q)
    (h : p.ShownAlike program settings q) :
    (line program settings registry v).value = (line program settings registry w).value := by
  obtain ⟨deeper, outermost⟩ := exists_line_eq_onLevel program settings registry
  rw [outermost, outermost]
  unfold onLevel
  rw [Traced.value_bind, Traced.value_bind, hv, hw]
  exact (claimed_alike h).value

/-- **A container shows the same through one pointer.** A pointer that is not null
leads to its struct or union. Both are recognised as the same container, or both as
none. As whatever container the two are shown, their printers show alike. If it is
the runtime's hook that claims them, they have the same line. -/
theorem pointer_target_alike (program : Program) (p : Value) (addr : Nat) (target : TypeId)
    (h : program.PointsTo p addr target) :
    (program.dereference p).result = .ok (.stored addr target) ∧
      ∀ settings : Settings,
        Container.ofValue? program settings p =
            Container.ofValue? program settings (.stored addr target) ∧
          (∀ c, Printer.ShownAlike program settings
            (.ofContainer p c) (.ofContainer (.stored addr target) c)) ∧
          ∀ registry : Registry, Hook.runtime.ClaimsFirst program settings registry p →
            Hook.runtime.ClaimsFirst program settings registry (.stored addr target) →
            (Display.line program settings registry p).value =
              (Display.line program settings registry (.stored addr target)).value := by
  refine ⟨h.dereference, ?_⟩
  intro settings
  refine ⟨h.ofValue?_eq settings, h.shownAlike settings, ?_⟩
  intro registry pointer direct
  obtain ⟨c, recognised, found⟩ := Hook.exists_container_of_runtime pointer
  obtain ⟨d, recognised', found'⟩ := Hook.exists_container_of_runtime direct
  have same : some c = some d := by rw [← recognised, ← recognised', h.ofValue?_eq settings]
  cases same
  exact Display.value_line_of_lookup found found' (h.shownAlike settings c)

/-! ### A list behind a pointer -/

/-- The types of a list of integers, and of a pointer to it. -/
def listTypes : TypeTable :=
  let types := TypeTable.empty.add (TypeTable.primitiveEntry "i64" 8 { signed := true })
  let types := types.add (TypeTable.pointerEntry 1)
  let types := types.add (types.layOut "__lang_rt_List_I64" false [⟨"len", 1⟩, ⟨"data", 2⟩])
  types.add (TypeTable.pointerEntry 3)

/-- The list has two elements, of which only the first can be read. -/
def listProgram : Program where
  types := listTypes
  memory := Snapshot.memory
    ⟨[⟨0x2000, LittleEndian.toBytes 8 7⟩, ⟨0x1000, [2, 0x2000].flatMap (LittleEndian.toBytes 8)⟩]⟩

/-- The pointer is in a register. -/
theorem pointer_target_alike_list :
    listProgram.PointsTo (.held 0x1000 4) 0x1000 3 ∧
      Container.ofValue? listProgram {} (.held 0x1000 4) = some (.list "I64") ∧
      (Display.line listProgram {} ⟨[.runtime]⟩ (.held 0x1000 4)).value =
        (Display.line listProgram {} ⟨[.runtime]⟩ (.stored 0x1000 3)).value := by
  have points : listProgram.PointsTo (.held 0x1000 4) 0x1000 3 :=
    ⟨⟨false, rfl⟩, rfl, by decide, ⟨_, rfl⟩⟩
  have recognised : Container.ofValue? listProgram {} (.held 0x1000 4) = some (.list "I64") := by
    rfl
  obtain ⟨-, shown⟩ := pointer_target_alike listProgram (.held 0x1000 4) 0x1000 3 points
  obtain ⟨same, -, line⟩ := shown {}
  have claims : ∀ v, Container.ofValue? listProgram {} v = some (.list "I64") →
      Hook.runtime.ClaimsFirst listProgram {} ⟨[.runtime]⟩ v := by
    intro v hv
    refine ⟨[], [], rfl, fun _ h => absurd h List.not_mem_nil, ?_⟩
    show (Container.ofValue? listProgram {} v).map _ ≠ none
    rw [hv]
    exact Option.some_ne_none _
  exact ⟨points, recognised, line _ (claims _ recognised) (claims _ (same ▸ recognised))⟩

end HeapLens
