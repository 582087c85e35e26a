import HeapLens.Types.Fields

/-!
# Values and what is known of them without reading

A value is a place and a type. Values in memory are not read before a scalar is
asked of them; other values, such as a pointer in a register, bring their bits
along.
-/

namespace HeapLens

/-- Where a value is. -/
inductive Place where
  /-- In memory, from the address on. -/
  | stored (addr : Nat)
  /-- Outside of memory; the bits are given. -/
  | held (bits : Nat)
  deriving DecidableEq, Repr

/-- A value of the inspected program. -/
structure Value where
  place : Place
  type : TypeId
  deriving DecidableEq, Repr

namespace Value

/-- The value of type `t` in memory at `addr`. -/
def stored (addr : Nat) (t : TypeId) : Value := ⟨.stored addr, t⟩

/-- The value of type `t` with these bits. -/
def held (bits : Nat) (t : TypeId) : Value := ⟨.held bits, t⟩

end Value

/-- A part of a value with the name under which it is shown. -/
structure Child where
  label : String
  value : Value
  deriving DecidableEq, Repr

/-- A program under inspection: its types and its memory. -/
structure Program where
  types : TypeTable
  memory : Memory

namespace Program

def resolve (program : Program) (v : Value) : TypeEntry := program.types.resolve v.type

def shape (program : Program) (v : Value) : Shape := (program.resolve v).shape

def spell (program : Program) (v : Value) : String := program.types.spell v.type

def typeName (program : Program) (v : Value) : Except Fault String :=
  match program.types.shape v.type with
  | .unknown => .error .unknownType
  | _ => .ok (program.spell v)

def pointeeName (program : Program) (v : Value) : Except Fault String :=
  match program.shape v with
  | .pointer target _ => .ok (program.types.spell target)
  | shape => .error (.notPointer shape.kind)

def isPointer (program : Program) (v : Value) : Bool :=
  match program.shape v with
  | .pointer _ _ => true
  | _ => false

/-- Whether a value is a struct, a union or an array. It is shown through its parts,
even without any. -/
def isAggregate (program : Program) (v : Value) : Bool :=
  match program.shape v with
  | .record _ | .array _ _ => true
  | _ => false

/-- The address of a value in memory; `part` says what it is needed for. -/
def addressOf (program : Program) (v : Value) (part : Part) : Except Fault Nat :=
  match v.place with
  | .stored addr => .ok addr
  | .held _ => .error (.notInMemory part (program.spell v))

/-- A value in memory is at its own address, whatever that is needed for. -/
theorem addressOf_of_stored {program : Program} {v : Value} {addr : Nat}
    (place : v.place = .stored addr) (part : Part) : program.addressOf v part = .ok addr := by
  rw [addressOf, place]

/-- A pointer is what has the shape of one, behind all typedefs. -/
theorem isPointer_iff {program : Program} {v : Value} :
    program.isPointer v = true ↔
      ∃ target reference, program.shape v = .pointer target reference := by
  unfold isPointer
  cases program.shape v <;> simp

/-- An aggregate is not a pointer. -/
theorem isPointer_eq_false_of_isAggregate {program : Program} {v : Value}
    (h : program.isAggregate v = true) : program.isPointer v = false := by
  unfold isAggregate at h
  unfold isPointer
  cases shape : program.shape v <;> simp_all

end Program

end HeapLens
