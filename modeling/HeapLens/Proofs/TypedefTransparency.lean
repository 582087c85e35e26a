import HeapLens.Proofs.TypeGrowth
import HeapLens.Value.Parts

/-!
# Typedefs are looked through

A value of a typedef is used like one of the type behind it. Each operation looks
through typedefs at a place of its own: once, by finding a field, by asking for a
size, or again in an operation that it is made of. So one law is stated for all of
them:

> `Synonymous`: two values in one place whose types strip to the same type.

Of synonymous values every operation comes to the same (`agreeOn`). Only the wording
of a fault may differ, since it spells the type as the value has it; so outcomes are
compared up to the code of the fault (`SameOutcome`), and looks by that and by their
events (`Look.Agree`).

That a value is synonymous with the one of its stripped type is `strip_strip`:
stripping ends at a type that is no typedef, or, on a cycle or a chain that is too
long, at the unknown type, which no operation on the table ever replaces
(`shape_unknownId_run`).
-/

namespace HeapLens

/-! ## Outcomes up to wording -/

/-- The same result, or faults of the same kind. -/
inductive SameOutcome : Except Fault α → Except Fault α → Prop where
  | ok (a : α) : SameOutcome (.ok a) (.ok a)
  | error {fault fault' : Fault} (code : fault.code = fault'.code) :
      SameOutcome (.error fault) (.error fault')

namespace SameOutcome

theorem refl (x : Except Fault α) : SameOutcome x x := by
  cases x with
  | ok a => exact .ok a
  | error fault => exact .error rfl

/-- Two chains come to the same if each of their steps does. -/
theorem bind {x y : Except Fault α} {f g : α → Except Fault β} (h : SameOutcome x y)
    (hrest : ∀ a, SameOutcome (f a) (g a)) : SameOutcome (x >>= f) (y >>= g) := by
  cases h with
  | ok a => exact hrest a
  | error code => exact .error code

end SameOutcome

namespace Look

/-- The same result, or faults of the same kind; and the same events on the way. -/
structure Agree (x y : Look α) : Prop where
  outcome : SameOutcome x.result y.result
  events : x.events = y.events

namespace Agree

theorem refl (x : Look α) : x.Agree x := ⟨.refl _, rfl⟩

/-- Without a look at memory there are no reads to differ in. -/
theorem lift {x y : Except Fault α} (h : SameOutcome x y) :
    (liftM x : Look α).Agree (liftM y) := ⟨h, rfl⟩

/-- Looks that agree go on in agreement, and make the same reads in the same
order. -/
theorem bind {x y : Look α} {f g : α → Look β} (h : x.Agree y)
    (hrest : ∀ a, (f a).Agree (g a)) : (x >>= f).Agree (y >>= g) := by
  obtain ⟨outcome, events⟩ := h
  constructor
  · rw [result_bind, result_bind]
    exact outcome.bind fun a => (hrest a).outcome
  · rw [events_bind, events_bind, events]
    -- What follows is the rest, for one and the same result, or nothing.
    generalize x.result = r at outcome
    generalize y.result = r' at outcome
    cases outcome with
    | ok a => exact congrArg (y.events ++ ·) (hrest a).events
    | error code => rfl

end Agree

end Look

/-! ## Stripping twice -/

namespace TypeTable

variable {table : TypeTable}

/-- What stripping ends at is no typedef, unless it gave up. -/
theorem stripWithin_eq_or (looks : Nat) (t : TypeId) :
    table.stripWithin looks t = unknownId ∨
      ∀ target, table.shape (table.stripWithin looks t) ≠ .typedef target := by
  induction looks generalizing t with
  | zero =>
    left
    rfl
  | succ looks ih =>
    by_cases h : ∃ target, table.shape t = .typedef target
    · obtain ⟨target, typedef⟩ := h
      rw [stripWithin_of_typedef typedef]
      exact ih target
    · right
      have shape : ∀ target, table.shape t ≠ .typedef target := fun target typedef =>
        h ⟨target, typedef⟩
      rwa [stripWithin_of_not_typedef shape]

/-- Not even if it gave up, when the unknown type is where it should be. -/
theorem shape_strip_ne_typedef (unknown : table.shape unknownId = .unknown) (t target : TypeId) :
    table.shape (table.strip t) ≠ .typedef target := by
  rcases stripWithin_eq_or stripLimit t with gaveUp | found
  · have unknownId_eq : table.strip t = unknownId := gaveUp
    rw [unknownId_eq, unknown]
    exact Shape.noConfusion
  · exact found target

/-- A stripped type is no typedef, so that stripping it again leaves it as it is. -/
theorem strip_strip (unknown : table.shape unknownId = .unknown) (t : TypeId) :
    table.strip (table.strip t) = table.strip t :=
  stripWithin_of_not_typedef (shape_strip_ne_typedef unknown t) _

/-- Finding a field depends on the type behind the typedefs; a fault spells the type
as it is given. -/
theorem findField_sameOutcome {t u : TypeId} (same : table.strip t = table.strip u)
    (name : String) : SameOutcome (table.findField t name) (table.findField u name) := by
  unfold findField
  rw [same]
  split
  · split
    · exact .error rfl
    · split
      · exact .ok _
      · exact .error rfl
  · exact .error rfl

end TypeTable

/-! ## Synonymous values -/

namespace Program

/-- Two values in one place, of one type behind all typedefs. -/
structure Synonymous (program : Program) (v w : Value) : Prop where
  place : v.place = w.place
  type : program.types.strip v.type = program.types.strip w.type

/-- All operations on values come to the same for these two, with the same reads. -/
structure AgreeOn (program : Program) (v w : Value) : Prop where
  pointeeName : SameOutcome (program.pointeeName v) (program.pointeeName w)
  isPointer : program.isPointer v = program.isPointer w
  isAggregate : program.isAggregate v = program.isAggregate w
  dereference : (program.dereference v).Agree (program.dereference w)
  field : ∀ name, SameOutcome (program.field v name) (program.field w name)
  index : ∀ i, (program.index v i).Agree (program.index w i)
  readInt : (program.readInt v).Agree (program.readInt w)
  readPointer : (program.readPointer v).Agree (program.readPointer w)
  readBytes : ∀ len, (program.readBytes v len).Agree (program.readBytes w len)
  scalarText : (program.scalarText v).Agree (program.scalarText w)
  parts : ∀ limit, (program.parts v limit).Agree (program.parts w limit)

namespace Synonymous

variable {program : Program} {v w : Value}

/-- Both types resolve to one entry, which is all that most operations ask of a
type. -/
theorem resolve (h : program.Synonymous v w) : program.resolve v = program.resolve w := by
  unfold Program.resolve TypeTable.resolve
  rw [h.type]

theorem shape (h : program.Synonymous v w) : program.shape v = program.shape w :=
  congrArg TypeEntry.shape h.resolve

/-- Which bits are read depends on the place and on the size, and not on the
type. -/
theorem readScalar (h : program.Synonymous v w) (size : Nat) :
    program.readScalar v size = program.readScalar w size := by
  unfold Program.readScalar
  rw [h.place]

/-- The fault for a value that is not in memory spells the type, so that only its
kind is the same. -/
theorem addressOf (h : program.Synonymous v w) (part : Part) :
    SameOutcome (program.addressOf v part) (program.addressOf w part) := by
  unfold Program.addressOf
  rw [h.place]
  split
  · exact .ok _
  · exact .error rfl

/-! ### Reading -/

/-- The shape tells whether a value holds an address. If it does not, the fault
spells the type. -/
theorem readPointer (h : program.Synonymous v w) :
    (program.readPointer v).Agree (program.readPointer w) := by
  unfold Program.readPointer
  rw [h.resolve]
  dsimp only
  split
  · rw [h.readScalar]
    exact .refl _
  · split
    · rw [h.readScalar]
      exact .refl _
    · exact .lift (.error rfl)
  · exact .lift (.error rfl)

/-- The shape tells how a number is read, and whether it is one. -/
theorem readInt (h : program.Synonymous v w) :
    (program.readInt v).Agree (program.readInt w) := by
  unfold Program.readInt
  rw [h.resolve]
  dsimp only
  split
  · split
    · exact .lift (.error rfl)
    · rw [h.readScalar]
      exact .refl _
  · rw [h.readScalar]
    exact .refl _
  · exact .lift (.error rfl)

/-- Bytes are read at the address that the pointer holds. -/
theorem readBytes (h : program.Synonymous v w) (len : Nat) :
    (program.readBytes v len).Agree (program.readBytes w len) :=
  h.readPointer.bind fun _ => .refl _

/-- The text of a scalar is made of its shape, its size and its bits. Only a fault
spells the type. -/
theorem scalarText (h : program.Synonymous v w) :
    (program.scalarText v).Agree (program.scalarText w) := by
  unfold Program.scalarText
  rw [h.resolve]
  dsimp only
  split
  · rw [h.readScalar]
    exact .refl _
  · rw [h.readScalar]
    exact .refl _
  · exact .lift (.error rfl)

/-! ### Parts -/

theorem pointeeName (h : program.Synonymous v w) :
    SameOutcome (program.pointeeName v) (program.pointeeName w) := by
  unfold Program.pointeeName
  rw [h.shape]
  exact .refl _

theorem dereference (h : program.Synonymous v w) :
    (program.dereference v).Agree (program.dereference w) := by
  unfold Program.dereference
  rw [h.shape]
  split
  · exact h.readPointer.bind fun _ => .refl _
  · exact .refl _

/-- Fields are looked up in the stripped type, and counted from the place. -/
theorem field (h : program.Synonymous v w) (name : String) :
    SameOutcome (program.field v name) (program.field w name) := by
  refine (TypeTable.findField_sameOutcome h.type name).bind fun f => ?_
  exact (h.addressOf .field).bind fun addr => .refl _

/-- Elements are counted from the address that a pointer holds, or from the place of
an array. -/
theorem index (h : program.Synonymous v w) (i : Nat) :
    (program.index v i).Agree (program.index w i) := by
  unfold Program.index
  rw [h.shape]
  split
  · exact h.readPointer.bind fun _ => .refl _
  · split
    · exact .refl _
    · exact (Look.Agree.lift (h.addressOf .element)).bind fun _ => .refl _
  · exact .refl _

/-- The elements of an array, one look after the other. -/
theorem elements (h : program.Synonymous v w) (i count : Nat) :
    (program.elements v i count).Agree (program.elements w i count) := by
  induction count generalizing i with
  | zero => exact .refl _
  | succ count ih =>
    have child : (program.elementChild v i).Agree (program.elementChild w i) :=
      (h.index i).bind fun _ => .refl _
    exact child.bind fun _ => (ih (i + 1)).bind fun _ => .refl _

/-- The parts of a struct are its fields, and those of an array its elements. -/
theorem parts (h : program.Synonymous v w) (limit : Nat) :
    (program.parts v limit).Agree (program.parts w limit) := by
  unfold Program.parts
  rw [h.shape]
  split
  · exact (Look.Agree.lift (h.addressOf .field)).bind fun _ => .refl _
  · exact h.elements 0 _
  · exact .refl _

theorem agreeOn (h : program.Synonymous v w) : program.AgreeOn v w where
  pointeeName := h.pointeeName
  isPointer := by
    unfold Program.isPointer
    rw [h.shape]
  isAggregate := by
    unfold Program.isAggregate
    rw [h.shape]
  dereference := h.dereference
  field := h.field
  index := h.index
  readInt := h.readInt
  readPointer := h.readPointer
  readBytes := h.readBytes
  scalarText := h.scalarText
  parts := h.parts

end Synonymous

/-- **Typedefs are transparent.** In every table that can be put together, with
cycles of typedefs and with targets that do not exist, a value and the one of its
stripped type agree on all operations. -/
theorem agreeOn_strip (ops : List TypeTable.Op) (memory : Memory) (v : Value) :
    let program : Program := ⟨TypeTable.run ops, memory⟩
    program.AgreeOn v { v with type := program.types.strip v.type } := by
  intro program
  have synonymous : program.Synonymous v { v with type := program.types.strip v.type } :=
    ⟨rfl, (TypeTable.strip_strip (TypeTable.shape_unknownId_run ops) v.type).symm⟩
  exact synonymous.agreeOn

/-- A typedef of itself. The faults are of one kind, and each spells the type that
it was given. -/
example :
    let name := "loop_t"
    let types := TypeTable.run [.typedef name 1]
    types.findField 1 "len" = .error (.fieldOfNonRecord "len" "unknown" name) ∧
      types.findField (types.strip 1) "len" =
        .error (.fieldOfNonRecord "len" "unknown" "<unknown>") :=
  ⟨rfl, rfl⟩

end Program

end HeapLens
