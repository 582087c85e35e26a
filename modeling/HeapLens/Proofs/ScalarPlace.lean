import HeapLens.Memory.Snapshot
import HeapLens.Proofs.Alike

/-!
# Where a scalar is does not matter

A pointer or number can be given by its bits, as from a register, or be in memory.
Bits beyond the size of the type do not count, and bytes in memory are extended by
zeros, so that the same number comes out in both cases:

> `SameBits.readScalar`: the lowest bytes of the bits are those in memory, hence the
> scalars agree.

All that is read of a scalar goes through `readScalar`, by one lemma for each
operation. Fields and parts a scalar does not have, wherever it is. Behind the first
step there is no difference any more: to where a pointer leads is in memory in both
cases.
-/

namespace HeapLens

/-- What is read of two values is alike, by whatever operation. -/
structure Program.LooksAlike (program : Program) (v w : Value) : Prop where
  readInt : (program.readInt v).Alike (program.readInt w)
  readPointer : (program.readPointer v).Alike (program.readPointer w)
  readBytes : ∀ len, (program.readBytes v len).Alike (program.readBytes w len)
  dereference : (program.dereference v).Alike (program.dereference w)
  field : ∀ name, program.field v name = program.field w name
  index : ∀ i, (program.index v i).Alike (program.index w i)
  scalarText : (program.scalarText v).Alike (program.scalarText w)
  parts : ∀ limit, (program.parts v limit).Alike (program.parts w limit)

/-- A type whose values are read as one number. -/
inductive TypeTable.IsScalar (types : TypeTable) (t : TypeId) : Prop where
  | primitive {traits : Traits} (shape : types.shape (types.strip t) = .primitive traits)
  | pointer {target : TypeId} {reference : Bool}
      (shape : types.shape (types.strip t) = .pointer target reference)

/-- The scalar of type `t` at `addr` has the bytes that these bits have. -/
structure Program.SameBits (program : Program) (t : TypeId) (bits addr : Nat) : Prop where
  scalar : program.types.IsScalar t
  size_pos : 1 ≤ program.types.sizeOf t
  size_le : program.types.sizeOf t ≤ 8
  read : program.memory.read addr (program.types.sizeOf t) =
    .ok (LittleEndian.toBytes (program.types.sizeOf t) bits)

/-- A hook that looks at nothing of a value but its type, and shows what it claims
as a container. -/
def Hook.ByType (hook : Hook) : Prop :=
  ∃ choose : Program → Settings → TypeId → Traced (Option Container), ∀ program settings v,
    hook.claim program settings v =
      Option.map (Printer.ofContainer v) <$> choose program settings v.type

variable {program : Program} {settings : Settings} {registry : Registry} {t : TypeId}
  {bits addr : Nat}

namespace Program.SameBits

/-! ## Reading -/

/-- Of the bits only the lowest bytes count, and these are the bytes in memory. -/
theorem readScalar (h : program.SameBits t bits addr) :
    (program.readScalar (.held bits t) (program.types.sizeOf t)).Alike
      (program.readScalar (.stored addr t) (program.types.sizeOf t)) := by
  refine (quiet_readScalar program _ _).alike (quiet_readScalar program _ _) ?_
  have stored : (program.memory.readUInt addr (program.types.sizeOf t)).result =
      .ok (bits % Nat.pow 256 (program.types.sizeOf t)) :=
    Memory.readUInt_eq_ok_iff.mpr
      ⟨⟨h.size_pos, h.size_le⟩, _, h.read, LittleEndian.ofBytes_toBytes _ bits⟩
  show .ok (bits % Nat.pow 256 (min (program.types.sizeOf t) 8)) =
    (program.memory.readUInt addr (program.types.sizeOf t)).result
  rw [stored, Nat.min_eq_left h.size_le]

/-- Whether the value holds an address is a matter of its type. The address itself
is a scalar. -/
theorem readPointer (h : program.SameBits t bits addr) :
    (program.readPointer (.held bits t)).Alike (program.readPointer (.stored addr t)) := by
  unfold Program.readPointer Program.resolve
  dsimp only [Value.held, Value.stored]
  split
  · exact h.readScalar
  · split
    · exact h.readScalar
    · exact .refl _
  · exact .refl _

/-- Whether there is a sign to extend is a matter of the type. The number that it is
extended from is a scalar. -/
theorem readInt (h : program.SameBits t bits addr) :
    (program.readInt (.held bits t)).Alike (program.readInt (.stored addr t)) := by
  unfold Program.readInt Program.resolve
  dsimp only [Value.held, Value.stored]
  split
  · split
    · exact .refl _
    · exact h.readScalar.bind fun x => .refl _
  · exact h.readScalar.bind fun x => .refl _
  · exact .refl _

/-- The text is made of the type and of the scalar. -/
theorem scalarText (h : program.SameBits t bits addr) :
    (program.scalarText (.held bits t)).Alike (program.scalarText (.stored addr t)) := by
  unfold Program.scalarText Program.resolve
  dsimp only [Value.held, Value.stored]
  split
  · exact h.readScalar.bind fun x => .refl _
  · exact h.readScalar.bind fun x => .refl _
  · exact .refl _

/-! ## Parts -/

/-- What a pointer leads to is in memory, wherever the pointer is. -/
theorem dereference (h : program.SameBits t bits addr) :
    (program.dereference (.held bits t)).Alike (program.dereference (.stored addr t)) := by
  unfold Program.dereference Program.shape Program.resolve
  dsimp only [Value.held, Value.stored]
  split
  · exact h.readPointer.bind fun base => .refl _
  · exact .refl _

/-- No scalar has fields. -/
theorem field (h : program.SameBits t bits addr) (name : String) :
    program.field (.held bits t) name = program.field (.stored addr t) name := by
  have none : ∃ fault, program.types.findField t name = .error fault := by
    unfold TypeTable.findField
    cases h.scalar with
    | primitive shape =>
      rw [shape]
      exact ⟨_, rfl⟩
    | pointer shape =>
      rw [shape]
      exact ⟨_, rfl⟩
  obtain ⟨fault, hfault⟩ := none
  unfold Program.field
  dsimp only [Value.held, Value.stored]
  rw [hfault]
  rfl

/-- An element is counted from a pointer. A number has none. -/
theorem index (h : program.SameBits t bits addr) (i : Nat) :
    (program.index (.held bits t) i).Alike (program.index (.stored addr t) i) := by
  unfold Program.index Program.shape Program.resolve TypeTable.resolve
  dsimp only [Value.held, Value.stored]
  cases h.scalar with
  | primitive shape =>
    unfold TypeTable.shape at shape
    rw [shape]
    exact .refl _
  | pointer shape =>
    unfold TypeTable.shape at shape
    rw [shape]
    exact h.readPointer.bind fun base => .refl _

/-- No scalar has parts, so that none is listed for either value. -/
theorem parts (h : program.SameBits t bits addr) (limit : Nat) :
    (program.parts (.held bits t) limit).Alike (program.parts (.stored addr t) limit) := by
  unfold Program.parts Program.shape Program.resolve TypeTable.resolve
  dsimp only [Value.held, Value.stored]
  cases h.scalar with
  | primitive shape | pointer shape =>
    unfold TypeTable.shape at shape
    rw [shape]
    exact .refl _

theorem looksAlike (h : program.SameBits t bits addr) :
    program.LooksAlike (.held bits t) (.stored addr t) where
  readInt := h.readInt
  readPointer := h.readPointer
  readBytes _ := h.readPointer.bind fun _ => .refl _
  dereference := h.dereference
  field := h.field
  index := h.index
  scalarText := h.scalarText
  parts := h.parts

/-! ## Containers -/

/-- A pointer opens as what it leads to. A number opens as itself, and has the same
fields in both places, which are none. -/
theorem openedAlike (h : program.SameBits t bits addr) :
    program.OpenedAlike (.held bits t) (.stored addr t) := by
  have same : program.isPointer (.stored addr t) = program.isPointer (.held bits t) := rfl
  by_cases pointer : program.isPointer (.held bits t) = true
  · refine .one ?_
    unfold Program.openContainer
    rw [same, if_pos pointer, if_pos pointer]
    refine h.readPointer.bind fun base => ?_
    split
    · exact .refl _
    · exact h.dereference.map some
  · have straight := Bool.eq_false_iff.mpr pointer
    exact .two straight (same.trans straight) h.field

/-- A pointer is null by its address, which is read in both places. -/
theorem isNullPointer (h : program.SameBits t bits addr) :
    (program.isNullPointer (.held bits t)).Alike (program.isNullPointer (.stored addr t)) := by
  have same : program.isPointer (.stored addr t) = program.isPointer (.held bits t) := rfl
  unfold Program.isNullPointer
  rw [same]
  split
  · exact Traced.Alike.bind h.readPointer fun _ => .refl _
  · exact .refl _

theorem shownAlike (h : program.SameBits t bits addr) (settings : Settings) (c : Container) :
    Printer.ShownAlike program settings ⟨.held bits t, c⟩ ⟨.stored addr t, c⟩ :=
  Printer.shownAlike_of_opened h.openedAlike h.isNullPointer c

end Program.SameBits

/-! ## Hooks -/

/-- The runtime's hook goes by the spelling of a type. -/
theorem Hook.byType_runtime : Hook.runtime.ByType :=
  ⟨fun program settings t => pure (Container.ofValue? program settings (.held 0 t)),
    fun _ _ _ => rfl⟩

/-- A hook that always makes the same claim goes by the name of the type at most. -/
theorem Hook.byType_always (name : String) (container : Option Container) (only : Option String) :
    (Hook.always name container only).ByType := by
  refine ⟨fun program _ t => pure <|
    if only.all fun wanted => (program.typeName (.held 0 t)).toOption == some wanted then container
    else none, ?_⟩
  intro program settings v
  have type : program.typeName (.held 0 v.type) = program.typeName v := rfl
  show pure (if _ then _ else _) = (pure (Option.map _ (if _ then _ else _)) : Traced _)
  rw [type, apply_ite (Option.map (Printer.ofContainer v))]
  rfl

/-- Values of one type are claimed in one way. -/
theorem Registry.exists_lookup_eq (program : Program) (settings : Settings)
    (h : ∀ hook ∈ registry.hooks, hook.ByType) {v w : Value} (type : v.type = w.type) :
    ∃ choice : Traced (Option Container),
      registry.lookup program settings v = Option.map (Printer.ofContainer v) <$> choice ∧
      registry.lookup program settings w = Option.map (Printer.ofContainer w) <$> choice := by
  unfold Registry.lookup
  generalize registry.hooks = hooks at h
  induction hooks with
  | nil => exact ⟨pure none, rfl, rfl⟩
  | cons hook rest ih =>
    obtain ⟨choose, hchoose⟩ := h hook List.mem_cons_self
    obtain ⟨choice, hv, hw⟩ := ih fun other hother => h other (List.mem_cons_of_mem _ hother)
    -- The hook in front chooses by the type, and so do those behind it.
    have front : ∀ u : Value, u.type = v.type →
        Hook.firstClaim program settings u rest = Option.map (Printer.ofContainer u) <$> choice →
        Hook.firstClaim program settings u (hook :: rest) =
          Option.map (Printer.ofContainer u) <$> (do
            match ← choose program settings v.type with
            | some c => pure (some c)
            | none => choice) := by
      intro u hu hrest
      rw [Hook.firstClaim, hchoose, hu, hrest]
      apply Traced.ext
      · simp only [Traced.value_bind, Traced.value_map]
        cases (choose program settings v.type).value <;> rfl
      · simp only [Traced.events_bind, Traced.events_map, Traced.value_map]
        cases (choose program settings v.type).value <;> rfl
    exact ⟨_, front v rfl hv, front w type.symm hw⟩

/-! ## The display -/

namespace Display

/-- A pointer is shown by its address and by what it leads to. -/
theorem pointer_alike (h : program.SameBits t bits addr) (follow : Value → Traced String) :
    (pointer program follow (.held bits t)).Alike (pointer program follow (.stored addr t)) := by
  refine Traced.Alike.bind h.readPointer fun base => ?_
  cases base with
  | error fault => exact .refl _
  | ok base =>
    dsimp only
    split
    · exact .refl _
    · exact Traced.Alike.bind h.dereference fun _ => .refl _

/-- A scalar without a hook has no parts to show, so that its text is shown. -/
theorem unclaimed_alike (h : program.SameBits t bits addr)
    (deeper : Option (Value → Traced String)) :
    (unclaimed program settings deeper (.held bits t)).Alike
      (unclaimed program settings deeper (.stored addr t)) := by
  have same : program.isAggregate (.stored addr t) = program.isAggregate (.held bits t) := rfl
  refine Traced.Alike.bind (h.parts _) fun parts => ?_
  cases parts with
  | error fault => exact .refl _
  | ok children =>
    dsimp only
    rw [same]
    split
    · exact Traced.Alike.bind h.scalarText fun _ => .refl _
    · exact .refl _

/-- The hooks choose the same container for both, or none. Then a pointer is
followed, and a number shown as it is. -/
theorem onLevel_alike (h : program.SameBits t bits addr)
    (hooks : ∀ hook ∈ registry.hooks, hook.ByType) (deeper : Option (Value → Traced String)) :
    (onLevel program settings registry deeper (.held bits t)).Alike
      (onLevel program settings registry deeper (.stored addr t)) := by
  have same : program.isPointer (.stored addr t) = program.isPointer (.held bits t) := rfl
  obtain ⟨choice, held, stored⟩ := Registry.exists_lookup_eq program settings hooks
    (v := .held bits t) (w := .stored addr t) rfl
  unfold onLevel
  rw [held, stored, bind_map_left, bind_map_left]
  refine Traced.Alike.bind (.refl _) fun container => ?_
  cases container with
  | some c => exact claimed_alike (h.shownAlike settings c.named)
  | none =>
    dsimp only [Option.map_none]
    rw [same]
    split
    · exact pointer_alike h _
    · exact unclaimed_alike h _

theorem line_alike (h : program.SameBits t bits addr)
    (hooks : ∀ hook ∈ registry.hooks, hook.ByType) :
    (line program settings registry (.held bits t)).Alike
      (line program settings registry (.stored addr t)) := by
  obtain ⟨deeper, outermost⟩ := exists_line_eq_onLevel program settings registry
  rw [outermost, outermost]
  exact onLevel_alike h hooks deeper

end Display

/-- **Where a scalar is does not matter.** Of a scalar that is given by its bits and
one that has the same bytes in memory all operations give the same, the same faults
included. If the hooks go by the type, both are claimed by the same printer, which
shows them alike, and they have the same text. -/
theorem held_stored_alike (program : Program) (t : TypeId) (bits addr : Nat)
    (h : program.SameBits t bits addr) :
    program.LooksAlike (.held bits t) (.stored addr t) ∧
    ∀ (settings : Settings) (registry : Registry), (∀ hook ∈ registry.hooks, hook.ByType) →
      (registry.lookup program settings (.held bits t)).notes =
          (registry.lookup program settings (.stored addr t)).notes ∧
        Option.Rel (Printer.ShownAlike program settings)
          (registry.lookup program settings (.held bits t)).value
          (registry.lookup program settings (.stored addr t)).value ∧
        (Display.line program settings registry (.held bits t)).Alike
          (Display.line program settings registry (.stored addr t)) := by
  refine ⟨h.looksAlike, ?_⟩
  intro settings registry hooks
  obtain ⟨choice, held, stored⟩ := Registry.exists_lookup_eq program settings hooks
    (v := .held bits t) (w := .stored addr t) rfl
  refine ⟨?_, ?_, Display.line_alike h hooks⟩
  · rw [held, stored]
    rfl
  · rw [held, stored, Traced.value_map, Traced.value_map]
    cases choice.value with
    | none => exact .none
    | some c => exact .some (h.shownAlike settings c.named)

/-! ### A number of two bytes -/

/-- A typedef of a signed number of two bytes, which are all that is in memory. -/
def shortProgram : Program where
  types := ⟨#[.unknown, TypeTable.primitiveEntry "int16_t" 2 { signed := true },
    TypeTable.typedefEntry "short_t" 1]⟩
  memory := Snapshot.memory ⟨[⟨0x10, [0xFE, 0xFF]⟩]⟩

/-- The runtime's hook, and one that takes the typedef for a string. -/
def shortRegistry : Registry := ⟨[.runtime, .always "shorts" (some .text) (some "short_t")]⟩

/-- The bits have more ones than the two bytes hold. -/
theorem held_stored_alike_short :
    shortProgram.SameBits 2 0x1FFFE 0x10 ∧
      (shortProgram.readInt (.held 0x1FFFE 2)).result = .ok (-2) ∧
      (shortProgram.readInt (.stored 0x10 2)).result = .ok (-2) ∧
      (∀ hook ∈ shortRegistry.hooks, hook.ByType) ∧
      (Display.line shortProgram {} shortRegistry (.held 0x1FFFE 2)).Alike
        (Display.line shortProgram {} shortRegistry (.stored 0x10 2)) := by
  have same : shortProgram.SameBits 2 0x1FFFE 0x10 :=
    ⟨.primitive rfl, by decide, by decide, rfl⟩
  have hooks : ∀ hook ∈ shortRegistry.hooks, hook.ByType := by
    intro hook hmem
    rcases List.mem_cons.mp hmem with rfl | hmem
    · exact Hook.byType_runtime
    · rw [List.mem_singleton.mp hmem]
      exact Hook.byType_always _ _ _
  have held : (shortProgram.readInt (.held 0x1FFFE 2)).result = .ok (-2) := by rfl
  obtain ⟨looks, shown⟩ := held_stored_alike shortProgram 2 0x1FFFE 0x10 same
  exact ⟨same, held, looks.readInt.value.symm.trans held, hooks, (shown {} shortRegistry hooks).2.2⟩

end HeapLens
