import HeapLens.Container.Printer

/-!
# Cursors: a container's children on demand

A cursor walks over the children of a container, one at a time and forward only. It
reads nothing before the first child is asked for; from then on it keeps what it
read of the container's struct, and reads the current state of everything else. A
walk that fails ends there, with a note. A cursor that has ended stays so.
-/

namespace HeapLens

/-- The buffer in field `buffer` of a container's struct and the number in its field
`count`, if there is a buffer. -/
def Program.openBuffer (program : Program) (subject : Value) (count buffer : RuntimeField) :
    Look (Option (Value × Int)) := do
  match ← program.openContainer subject with
  | none => pure none
  | some v => do
    let number ← program.readCount v count
    let data ← liftM (program.runtimeField v buffer)
    let addr ← program.readPointer data
    if addr = 0 then pure none
    else pure (some (data, number))

/-! ## Lists -/

inductive ListCursor where
  | fresh (subject : Value)
  /-- The next child is the element at `index` of the buffer `data`; the walk ends
  before `stop`. -/
  | walking (data : Value) (index stop : Nat)
  | finished
  deriving DecidableEq, Repr

namespace ListCursor

/-- The child at `index`, if the walk has not come to its end. -/
def advance (program : Program) (data : Value) (index stop : Nat) :
    Traced (Option Child × ListCursor) :=
  if index < stop then do
    match ← (program.index data index).run with
    | .ok element => pure (some ⟨s!"[{index}]", element⟩, walking data (index + 1) stop)
    | .error fault => do
      Traced.note (failureLine s!"List element [{index}]" fault)
      pure (none, finished)
  else pure (none, finished)

/-- The next child, and the cursor behind it. A negative length shows nothing. -/
def next (program : Program) (settings : Settings) :
    ListCursor → Traced (Option Child × ListCursor)
  | fresh subject => do
    match ← (program.openBuffer subject .length .data).orNote "List children" none with
    | none => pure (none, finished)
    | some (data, length) =>
      advance program data 0 (min length.toNat settings.maxListChildren)
  | walking data index stop => advance program data index stop
  | finished => pure (none, finished)

end ListCursor

/-! ## Dictionaries -/

inductive DictCursor where
  | fresh (subject : Value)
  /-- The next slot of `slots` is `slot`, and `ahead` slots are left; `shown`
  entries were found. -/
  | walking (slots : Value) (slot ahead shown : Nat)
  /-- The key of an entry was given, and its value is due before the walk goes
  on. -/
  | owing (due : Child) (slots : Value) (slot ahead shown : Nat)
  | finished
  deriving DecidableEq, Repr

structure Entry where
  key : Value
  value : Value
  deriving DecidableEq, Repr

namespace DictCursor

/-- The entry in a slot, if the slot's status says that it holds one. -/
def readSlot (program : Program) (settings : Settings) (slots : Value) (slot : Nat) :
    Look (Option Entry) := do
  let here ← program.index slots slot
  let status ← program.readCount here .status
  if status = settings.occupiedStatus then do
    let key ← liftM (program.runtimeField here .key)
    let value ← liftM (program.runtimeField here .value)
    pure (some ⟨key, value⟩)
  else pure none

/-- The key of the entry in the first slot from `slot` on that holds one. -/
def advance (program : Program) (settings : Settings) (slots : Value) (shown : Nat) :
    (slot ahead : Nat) → Traced (Option Child × DictCursor)
  | _, 0 => pure (none, finished)
  | slot, ahead + 1 => do
    match ← (readSlot program settings slots slot).run with
    | .ok none => advance program settings slots shown (slot + 1) ahead
    | .ok (some entry) =>
      pure (some ⟨s!"[{shown}].key", entry.key⟩,
        owing ⟨s!"[{shown}].value", entry.value⟩ slots (slot + 1) ahead (shown + 1))
    | .error fault => do
      Traced.note (failureLine s!"Dict slot {slot}" fault)
      pure (none, finished)

/-- The next child, and the cursor behind it. Keys and values take turns. -/
def next (program : Program) (settings : Settings) :
    DictCursor → Traced (Option Child × DictCursor)
  | fresh subject => do
    match ← (program.openBuffer subject .capacity .slots).orNote "Dict children" none with
    | none => pure (none, finished)
    | some (slots, capacity) => advance program settings slots 0 0 capacity.toNat
  | walking slots slot ahead shown => advance program settings slots shown slot ahead
  | owing due slots slot ahead shown => pure (some due, walking slots slot ahead shown)
  | finished => pure (none, finished)

end DictCursor

/-! ## Any container -/

inductive Cursor where
  | list (cursor : ListCursor)
  | dict (cursor : DictCursor)
  | nothing
  deriving DecidableEq, Repr

namespace Cursor

def next (program : Program) (settings : Settings) : Cursor → Traced (Option Child × Cursor)
  | list cursor => do
    let (child, cursor) ← cursor.next program settings
    pure (child, list cursor)
  | dict cursor => do
    let (child, cursor) ← cursor.next program settings
    pure (child, dict cursor)
  | nothing => pure (none, nothing)

/-- Up to `limit` children; no more are asked for. -/
def take (program : Program) (settings : Settings) :
    (limit : Nat) → Cursor → Traced (List Child)
  | 0, _ => pure []
  | limit + 1, cursor => do
    match ← cursor.next program settings with
    | (none, _) => pure []
    | (some child, cursor) => (child :: ·) <$> take program settings limit cursor

/-- All children. There are fewer than the bound: a count of eight bytes is below
half of it, and an entry of a dictionary has two children. -/
def drain (program : Program) (settings : Settings) (cursor : Cursor) : Traced (List Child) :=
  take program settings addressLimit cursor

end Cursor

/-- A cursor before the first child. -/
def Printer.cursor (p : Printer) : Cursor :=
  match p.container with
  | .text => .nothing
  | .list _ => .list (.fresh p.subject)
  | .dict _ _ => .dict (.fresh p.subject)

end HeapLens
