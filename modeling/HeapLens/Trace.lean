/-!
# Traced computations

Looking at a value reads memory and may leave notes for the log. A `Traced`
computation carries, next to its result, the list of these events in the order in
which they happened, so that *what was read, when, and how often* is part of what
the library defines and not a side effect of running it.
-/

namespace HeapLens

/-- Something that an observer of a computation can see besides its result. -/
inductive Event where
  /-- Memory was asked for `len` bytes at `addr`, whether it could answer or not. -/
  | read (addr len : Nat)
  /-- A line was left for the log. -/
  | note (line : String)
  deriving DecidableEq, Repr

/-- The read that an event is, as address and length. -/
def Event.read? : Event → Option (Nat × Nat)
  | read addr len => some (addr, len)
  | note _ => none

/-- The line that an event leaves. -/
def Event.line? : Event → Option String
  | read _ _ => none
  | note line => some line

/-- A result together with the events on the way to it, first to last. -/
structure Traced (α : Type u) where
  value : α
  events : List Event := []
  deriving Repr

namespace Traced

@[ext] theorem ext {x y : Traced α} (value : x.value = y.value) (events : x.events = y.events) :
    x = y := by
  cases x; cases y; cases value; cases events; rfl

/-- A computation in which nothing happens. -/
protected def pure (a : α) : Traced α := ⟨a, []⟩

/-- First `x`, then what `f` makes of its result. -/
protected def bind (x : Traced α) (f : α → Traced β) : Traced β :=
  ⟨(f x.value).value, x.events ++ (f x.value).events⟩

instance : Monad Traced where
  pure := Traced.pure
  bind := Traced.bind
  map f x := ⟨f x.value, x.events⟩

@[simp] theorem value_pure (a : α) : (pure a : Traced α).value = a := rfl

@[simp] theorem events_pure (a : α) : (pure a : Traced α).events = [] := rfl

/-- The result of two computations in a row is that of the second. -/
@[simp] theorem value_bind (x : Traced α) (f : α → Traced β) :
    (x >>= f).value = (f x.value).value := rfl

/-- What happens in the first happens before what happens in the second. -/
@[simp] theorem events_bind (x : Traced α) (f : α → Traced β) :
    (x >>= f).events = x.events ++ (f x.value).events := rfl

/-- Only the result of the first computation matters to the second. -/
theorem bind_eq_bind {x : Traced α} {f g : α → Traced β} (h : f x.value = g x.value) :
    x >>= f = x >>= g := by
  apply Traced.ext
  · rw [value_bind, value_bind, h]
  · rw [events_bind, events_bind, h]

@[simp] theorem value_map (f : α → β) (x : Traced α) : (f <$> x).value = f x.value := rfl

@[simp] theorem events_map (f : α → β) (x : Traced α) : (f <$> x).events = x.events := rfl

instance : LawfulMonad Traced :=
  LawfulMonad.mk' Traced (fun _ => rfl)
    (fun _ _ => Traced.ext rfl (List.nil_append _))
    (fun _ _ _ => Traced.ext rfl (List.append_assoc _ _ _))
    (fun _ _ => rfl) (fun _ _ => rfl) (fun _ _ => rfl)
    (fun _ _ => Traced.ext rfl (List.append_nil _))

/-- Leave a line for the log. -/
def note (line : String) : Traced Unit := ⟨(), [.note line]⟩

@[simp] theorem events_note (line : String) : (note line).events = [.note line] := rfl

def reads (x : Traced α) : List (Nat × Nat) := x.events.filterMap Event.read?

def notes (x : Traced α) : List String := x.events.filterMap Event.line?

@[simp] theorem reads_pure (a : α) : (pure a : Traced α).reads = [] := rfl

@[simp] theorem notes_pure (a : α) : (pure a : Traced α).notes = [] := rfl

@[simp] theorem reads_bind (x : Traced α) (f : α → Traced β) :
    (x >>= f).reads = x.reads ++ (f x.value).reads := by
  simp [reads]

@[simp] theorem notes_bind (x : Traced α) (f : α → Traced β) :
    (x >>= f).notes = x.notes ++ (f x.value).notes := by
  simp [notes]

end Traced

end HeapLens
