import HeapLens.Fault
import HeapLens.Memory.Basic

/-!
# Types of the inspected program

All types live in one table and refer to each other by their place in it, so that a
struct can hold a pointer to itself. A place that the table does not have stands for
the unknown type, which is also its first entry. Typedefs are looked through by
`strip`, up to a fixed number of them, so that a typedef of itself does no harm.
-/

namespace HeapLens

/-- The place of a type in its table. -/
abbrev TypeId := Nat

/-- How a primitive type is to be read. -/
structure Traits where
  signed : Bool := false
  float : Bool := false
  char : Bool := false
  bool : Bool := false
  deriving DecidableEq, Repr

/-- A field of a struct or union; the offset counts bytes. -/
structure Field where
  name : String
  offset : Nat
  type : TypeId
  deriving DecidableEq, Repr

/-- A struct or union. One that is only declared has no fields yet. -/
structure Record where
  fields : List Field
  isUnion : Bool := false
  isDeclaration : Bool := false
  deriving DecidableEq, Repr

/-- What a type is made of. -/
inductive Shape where
  | unknown
  | primitive (traits : Traits)
  | pointer (target : TypeId) (reference : Bool)
  | array (elem : TypeId) (length : Nat)
  | record (record : Record)
  | typedef (target : TypeId)
  deriving DecidableEq, Repr

def Shape.kind : Shape → String
  | unknown => "unknown"
  | primitive _ => "primitive"
  | pointer _ _ => "pointer"
  | array _ _ => "array"
  | record _ => "struct"
  | typedef _ => "typedef"

/-- A type as the table holds it. The name is empty for pointers, arrays and
nameless structs. -/
structure TypeEntry where
  name : String
  size : Nat
  align : Nat
  shape : Shape
  deriving DecidableEq, Repr

def TypeEntry.unknown : TypeEntry := ⟨"", 0, 1, .unknown⟩

/-- The types of a program. -/
structure TypeTable where
  entries : Array TypeEntry
  deriving DecidableEq, Repr

namespace TypeTable

def unknownId : TypeId := 0

def pointerSize : Nat := 8

def empty : TypeTable := ⟨#[.unknown]⟩

instance : Inhabited TypeTable := ⟨empty⟩

def size (table : TypeTable) : Nat := table.entries.size

/-- The entry at a place; places beyond the table hold the unknown type. -/
def entry (table : TypeTable) (t : TypeId) : TypeEntry := table.entries.getD t .unknown

def shape (table : TypeTable) (t : TypeId) : Shape := (table.entry t).shape

/-! ## Looking through typedefs -/

/-- `strip` looks at so many types before it gives up. -/
def stripLimit : Nat := 100

/-- The first type behind `t` that is no typedef, among the first `looks` types; the
unknown type if there is none. -/
def stripWithin (table : TypeTable) : (looks : Nat) → TypeId → TypeId
  | 0, _ => unknownId
  | looks + 1, t =>
    match table.shape t with
    | .typedef target => table.stripWithin looks target
    | _ => t

/-- The type that `t` is another name for. -/
def strip (table : TypeTable) (t : TypeId) : TypeId := table.stripWithin stripLimit t

def resolve (table : TypeTable) (t : TypeId) : TypeEntry := table.entry (table.strip t)

def sizeOf (table : TypeTable) (t : TypeId) : Nat := (table.resolve t).size

def alignOf (table : TypeTable) (t : TypeId) : Nat := (table.resolve t).align

/-- What is no typedef is found at the first look. -/
theorem stripWithin_of_not_typedef {table : TypeTable} {t : TypeId}
    (h : ∀ target, table.shape t ≠ .typedef target) (looks : Nat) :
    table.stripWithin (looks + 1) t = t := by
  rw [stripWithin]
  split
  · next target shape => exact absurd shape (h target)
  · rfl

/-- Each typedef takes one of the looks. -/
theorem stripWithin_of_typedef {table : TypeTable} {t target : TypeId}
    (h : table.shape t = .typedef target) (looks : Nat) :
    table.stripWithin (looks + 1) t = table.stripWithin looks target := by
  rw [stripWithin, h]

/-- What is known behind a type's typedefs makes the type itself known. -/
theorem shape_ne_unknown_of_strip {table : TypeTable} {t : TypeId}
    (h : table.shape (table.strip t) ≠ .unknown) : table.shape t ≠ .unknown := by
  intro unknown
  have itself : table.strip t = t := by
    refine stripWithin_of_not_typedef ?_ _
    intro target typedef
    rw [unknown] at typedef
    cases typedef
  rw [itself] at h
  exact h unknown

/-! ## Adding types -/

/-- The table with one more entry; its place is the old size of the table. -/
def add (table : TypeTable) (entry : TypeEntry) : TypeTable := ⟨table.entries.push entry⟩

/-- A primitive type is aligned to its size. -/
def primitiveEntry (name : String) (size : Nat) (traits : Traits) : TypeEntry :=
  ⟨name, size, max size 1, .primitive traits⟩

def pointerEntry (target : TypeId) : TypeEntry :=
  ⟨"", pointerSize, pointerSize, .pointer target false⟩

/-- An array. A size that no program can have is cut to the largest one. -/
def arrayEntry (table : TypeTable) (elem : TypeId) (length : Nat) : TypeEntry :=
  ⟨"", min (table.sizeOf elem * length) (addressLimit - 1), table.alignOf elem,
    .array elem length⟩

/-- Another name for `target`. Its size is that of the type behind it, see
`sizeOf`. -/
def typedefEntry (name : String) (target : TypeId) : TypeEntry := ⟨name, 0, 1, .typedef target⟩

/-- A struct that is only declared. It can be pointed to and completed later. -/
def declarationEntry (name : String) : TypeEntry :=
  ⟨name, 0, 1, .record { fields := [], isDeclaration := true }⟩

/-! ## Finding types -/

/-- The first type of that name; the empty name belongs to none. -/
def findByName? (table : TypeTable) (name : String) : Option TypeId :=
  table.entries.findIdx? fun entry => entry.name != "" && entry.name == name

/-! ## Entries of a changed table -/

@[simp] theorem size_add (table : TypeTable) (e : TypeEntry) :
    (table.add e).size = table.size + 1 := by
  simp [size, add]

/-- A type that is not in the table is unknown. -/
theorem entry_of_size_le {table : TypeTable} {t : TypeId} (h : table.size ≤ t) :
    table.entry t = .unknown := by
  simp [entry, Array.getD_eq_getD_getElem?, Array.getElem?_eq_none h]

/-- A new entry does not change the entries before it. -/
theorem entry_add_of_lt {table : TypeTable} {t : TypeId} (e : TypeEntry) (h : t < table.size) :
    (table.add e).entry t = table.entry t := by
  have here : t ≠ table.entries.size := Nat.ne_of_lt h
  simp [entry, add, Array.getD_eq_getD_getElem?, Array.getElem?_push, here]

theorem entry_add_size (table : TypeTable) (e : TypeEntry) :
    (table.add e).entry table.size = e := by
  simp [entry, add, size, Array.getD_eq_getD_getElem?]

end TypeTable

end HeapLens
