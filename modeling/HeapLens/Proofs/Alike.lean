import HeapLens.Display
import HeapLens.Proofs.CursorYields

/-!
# Computations that differ in their reads only

Two values can be shown in the same way although other reads are made for them: one
is in a register and one in memory, or one is reached through a pointer.

> `Alike`: the same result and the same notes, whatever was read.

`Alike` goes through every step of a computation (`bind`), so it is enough to find
it where the values are opened. A printer gets to its subject in one place, by
opening the container, and makes all else of the fields that it finds there. If two
values are opened alike (`OpenedAlike`), then what is shown of them is alike
(`shownAlike_of_opened`): the first call on a cursor forgets the value that it
started from.
-/

namespace HeapLens

/-! ## Alike -/

/-- The same result and the same notes. Reads may differ. -/
structure Traced.Alike (x y : Traced α) : Prop where
  value : x.value = y.value
  notes : x.notes = y.notes

namespace Traced.Alike

theorem refl (x : Traced α) : x.Alike x := ⟨rfl, rfl⟩

/-- Computations that are alike go on alike, if what follows them is alike from
every result. -/
theorem bind {x y : Traced α} {f g : α → Traced β} (h : x.Alike y)
    (hrest : ∀ a, (f a).Alike (g a)) : (x >>= f).Alike (y >>= g) := by
  constructor
  · rw [value_bind, value_bind, h.value]
    exact (hrest y.value).value
  · rw [notes_bind, notes_bind, h.notes, h.value, (hrest y.value).notes]

end Traced.Alike

namespace Look

/-- The same result or the same fault, and the same notes. -/
def Alike (x y : Look α) : Prop := Traced.Alike x.run y.run

theorem Alike.refl (x : Look α) : x.Alike x := Traced.Alike.refl _

/-- The same for looks. After a fault nothing follows, in either of them. -/
theorem Alike.bind {x y : Look α} {f g : α → Look β} (h : x.Alike y)
    (hrest : ∀ a, (f a).Alike (g a)) : (x >>= f).Alike (y >>= g) := by
  unfold Alike
  rw [ExceptT.run_bind, ExceptT.run_bind]
  refine Traced.Alike.bind h ?_
  intro result
  cases result with
  | ok a => exact hrest a
  | error fault => exact .refl _

theorem Alike.map {x y : Look α} (h : x.Alike y) (f : α → β) : (f <$> x).Alike (f <$> y) := by
  rw [← bind_pure_comp, ← bind_pure_comp]
  exact h.bind fun a => .refl _

/-- Looks that are alike fail with the same fault, which leaves the same note. -/
theorem Alike.orNote {x y : Look α} (h : x.Alike y) (what : String) (fallback : α) :
    (x.orNote what fallback).Alike (y.orNote what fallback) := by
  refine Traced.Alike.bind h ?_
  intro result
  exact .refl _

/-! ## Looks that leave no note -/

/-- Nothing is left for the log, not even if the look ends in a fault. -/
def Quiet (x : Look α) : Prop := x.run.notes = []

/-- A look leaves no note if none of its steps leaves one. -/
theorem Quiet.bind {x : Look α} {f : α → Look β} (h : x.Quiet) (hrest : ∀ a, (f a).Quiet) :
    (x >>= f).Quiet := by
  unfold Quiet at *
  rw [ExceptT.run_bind, Traced.notes_bind, h]
  cases x.run.value with
  | ok a => exact hrest a
  | error fault => rfl

theorem Quiet.map {x : Look α} (h : x.Quiet) (f : α → β) : (f <$> x).Quiet := by
  rw [← bind_pure_comp]
  exact h.bind fun a => rfl

/-- Looks that leave no note are alike if they come to the same. -/
theorem Quiet.alike {x y : Look α} (hx : x.Quiet) (hy : y.Quiet) (h : x.result = y.result) :
    x.Alike y := ⟨h, hx.trans hy.symm⟩

end Look

open Look (Quiet)

variable {program : Program} {settings : Settings} {v w : Value}

/-- A read that fails is a fault and not a note. The looks below all come down to
this. -/
theorem Memory.quiet_readUInt (memory : Memory) (addr size : Nat) :
    (memory.readUInt addr size).Quiet := by
  unfold Memory.readUInt
  split
  · exact Quiet.map (f := LittleEndian.ofBytes) (x := memory.readBytes addr size) rfl
  · rfl

namespace Program

/-- No note is left for a scalar, whether its bits are at hand or have to be
read. -/
theorem quiet_readScalar (program : Program) (v : Value) (size : Nat) :
    (program.readScalar v size).Quiet := by
  obtain ⟨place, t⟩ := v
  cases place with
  | stored addr => exact program.memory.quiet_readUInt addr size
  | held bits => rfl

theorem quiet_readPointer (program : Program) (v : Value) : (program.readPointer v).Quiet := by
  unfold readPointer
  dsimp only
  split
  · exact program.quiet_readScalar v _
  · split
    · exact program.quiet_readScalar v _
    · rfl
  · rfl

theorem quiet_dereference (program : Program) (v : Value) : (program.dereference v).Quiet := by
  unfold dereference
  split
  · refine (program.quiet_readPointer v).bind ?_
    intro addr
    split <;> rfl
  · rfl

/-- Opening a container leaves no note. The printer or the cursor that opens it
leaves one for its fault. -/
theorem quiet_openContainer (program : Program) (v : Value) : (program.openContainer v).Quiet := by
  unfold openContainer
  split
  · refine (program.quiet_readPointer v).bind ?_
    intro addr
    split
    · rfl
    · exact (program.quiet_dereference v).map some
  · rfl

/-! ## Values that are opened alike -/

/-- Two values that open as one container, or not as one but with the same
fields. -/
inductive OpenedAlike (program : Program) (v w : Value) : Prop where
  | one (opened : (program.openContainer v).Alike (program.openContainer w))
  | two (left : program.isPointer v = false) (right : program.isPointer w = false)
      (fields : ∀ name, program.field v name = program.field w name)

/-- What is made of a container's fields is alike. -/
theorem OpenedAlike.bind {k : Option Value → Look α} (h : OpenedAlike program v w)
    (fields : ∀ v w, (∀ name, program.field v name = program.field w name) →
      k (some v) = k (some w)) :
    (program.openContainer v >>= k).Alike (program.openContainer w >>= k) := by
  cases h with
  | one opened => exact opened.bind fun body => .refl _
  | two left right same =>
    rw [openContainer_of_not_pointer left, openContainer_of_not_pointer right, pure_bind, pure_bind,
      fields v w same]
    exact .refl _

/-- A count is read from a field, and depends on nothing else of the struct. -/
theorem readCount_congr (fields : ∀ name, program.field v name = program.field w name)
    (f : RuntimeField) : program.readCount v f = program.readCount w f := by
  unfold readCount runtimeField
  rw [fields]

/-- The buffers of containers that open alike are found alike. -/
theorem OpenedAlike.openBuffer (h : OpenedAlike program v w) (count buffer : RuntimeField) :
    (program.openBuffer v count buffer).Alike (program.openBuffer w count buffer) := by
  refine h.bind ?_
  intro v w fields
  dsimp only
  unfold runtimeField
  rw [readCount_congr fields, fields]

end Program

open Program (OpenedAlike)

/-! ## Printers -/

/-- What two printers show is alike. -/
structure Printer.ShownAlike (program : Program) (settings : Settings) (p q : Printer) : Prop where
  container : p.container = q.container
  summary : (p.summary program settings).Alike (q.summary program settings)
  hint : (p.hint program).Alike (q.hint program)
  /-- The first call on a cursor gives the same child, and leaves the same cursor
  for those to come. -/
  next : (p.cursor.next program settings).Alike (q.cursor.next program settings)
  /-- As long as nothing changes, the cursors give the same children. -/
  children : ∃ children, Cursor.Yields program settings p.cursor children ∧
    Cursor.Yields program settings q.cursor children
  /-- So many of them as are asked for, and the notes on the way. -/
  take : ∀ limit, (p.cursor.take program settings limit).Alike
    (q.cursor.take program settings limit)

namespace Printer

/-- The summary of every kind of container is made of fields alone. -/
theorem decode_alike (h : OpenedAlike program v w) (c : Container) :
    (decode program settings ⟨v, c⟩).Alike (decode program settings ⟨w, c⟩) := by
  refine h.bind ?_
  intro v w fields
  dsimp only
  cases c with
  | text =>
    unfold decodeText Program.runtimeField
    rw [Program.readCount_congr fields, fields]
  | list elem =>
    unfold decodeCount
    rw [Program.readCount_congr fields]
  | dict key value =>
    unfold decodeCount
    rw [Program.readCount_congr fields]

theorem summary_alike (h : OpenedAlike program v w) (c : Container) :
    (summary program settings ⟨v, c⟩).Alike (summary program settings ⟨w, c⟩) :=
  (decode_alike h c).orNote _ _

/-- The first call on a cursor is the last that knows the value it started from. -/
theorem next_alike (h : OpenedAlike program v w) (c : Container) :
    ((cursor ⟨v, c⟩).next program settings).Alike ((cursor ⟨w, c⟩).next program settings) := by
  cases c with
  | text => exact .refl _
  | list elem =>
    refine Traced.Alike.bind ?_ fun _ => .refl _
    exact ((h.openBuffer .length .data).orNote _ _).bind fun _ => .refl _
  | dict key value =>
    refine Traced.Alike.bind ?_ fun _ => .refl _
    exact ((h.openBuffer .capacity .slots).orNote _ _).bind fun _ => .refl _

/-- Behind the first call both cursors are the same, so only that call could tell
them apart. -/
theorem take_alike {cursor cursor' : Cursor}
    (h : (cursor.next program settings).Alike (cursor'.next program settings)) (limit : Nat) :
    (cursor.take program settings limit).Alike (cursor'.take program settings limit) := by
  cases limit with
  | zero => exact .refl _
  | succ limit => exact h.bind fun _ => .refl _

/-- Values that are opened alike are shown alike, by whatever printer. -/
theorem shownAlike_of_opened (h : OpenedAlike program v w)
    (null : (program.isNullPointer v).Alike (program.isNullPointer w)) (c : Container) :
    ShownAlike program settings ⟨v, c⟩ ⟨w, c⟩ where
  container := rfl
  summary := summary_alike h c
  hint := by
    cases c with
    | text => exact null.bind fun _ => .refl _
    | list elem => exact .refl _
    | dict key value => exact .refl _
  next := next_alike h c
  children := by
    obtain ⟨children, -, hyields⟩ := Cursor.exists_yields program settings ⟨w, c⟩
    exact ⟨children, hyields.congr (next_alike h c).value, hyields⟩
  take := take_alike (next_alike h c)

end Printer

/-! ## The display -/

namespace Display

/-- All levels are the same function of what is inside, so a line is one look at the
outermost. -/
theorem exists_line_eq_onLevel (program : Program) (settings : Settings) (registry : Registry) :
    ∃ deeper, ∀ v, line program settings registry v =
      onLevel program settings registry deeper v := by
  unfold line
  cases settings.maxShownDepth with
  | zero => exact ⟨none, fun v => rfl⟩
  | succ levels => exact ⟨some (withLevels program settings registry levels), fun v => rfl⟩

/-- The display sees a printer through its summary, its hint and its cursor only. -/
theorem claimed_alike {deeper : Option (Value → Traced String)} {p q : Printer}
    (h : p.ShownAlike program settings q) :
    (claimed program settings deeper p).Alike (claimed program settings deeper q) := by
  have children : ∀ hint summary, (container program settings deeper p hint summary).Alike
      (container program settings deeper q hint summary) :=
    fun _ _ => h.next.bind fun _ => .refl _
  refine h.summary.bind fun summary => h.hint.bind fun hint => ?_
  cases hint with
  | plain => exact .refl _
  | string => exact .refl _
  | array => exact children _ _
  | map => exact children _ _

end Display

end HeapLens
