import HeapLens.Display
import HeapLens.Log
import HeapLens.Memory.Snapshot
import HeapLens.Types.Layout

/-!
# Sessions

A session keeps what an inspection works with: settings, types, a snapshot, hooks,
and cursors that are under way; and what it leaves behind: the log, and the reads
that have not been collected yet. Types and memory may change at any time; whatever
is looked at is looked at as it is then.
-/

namespace HeapLens

structure Session where
  settings : Settings := {}
  types : TypeTable := .empty
  snapshot : Snapshot := .empty
  registry : Registry := .empty
  cursors : Array Cursor := #[]
  log : Log := .empty
  /-- The reads since they were last collected, first to last. -/
  reads : List (Nat × Nat) := []

abbrev Session.Action := StateM Session

namespace Session

/-- Types and memory as they are now. -/
def program (s : Session) : Program := ⟨s.types, s.snapshot.memory⟩

/-- The session after `x` was run: notes go to the log, reads are kept. -/
def absorb (s : Session) (x : Traced α) : Session :=
  { s with log := s.log.addAll x.notes, reads := s.reads ++ x.reads }

/-- Runs a computation over the current types, memory and settings. -/
def observe (x : Program → Settings → Traced α) : Action α := do
  let s ← get
  let outcome := x s.program s.settings
  set (s.absorb outcome)
  pure outcome.value

/-- Runs a look over the current types and memory. -/
def look (x : Program → Look α) : Action (Except Fault α) :=
  observe fun program _ => (x program).run

/-! ## Types -/

/-- Adds the type that is described in terms of those that are there. -/
def addType (entry : TypeTable → TypeEntry) : Action TypeId :=
  modifyGet fun s => (s.types.size, { s with types := s.types.add (entry s.types) })

/-- Completes a declared struct and gives its place. -/
def completeType (t : TypeId) (name : String) (isUnion : Bool) (members : List Member) :
    Action (Except Fault TypeId) :=
  modifyGet fun s =>
    match s.types.complete t name isUnion members with
    | .ok types => (.ok t, { s with types })
    | .error fault => (.error fault, s)

/-! ## Memory -/

/-- Replaces the snapshot by what `change` makes of it, unless that fails. -/
def changeMemory (change : Snapshot → Except Fault Snapshot) : Action (Except Fault Unit) :=
  modifyGet fun s =>
    match change s.snapshot with
    | .ok snapshot => (.ok (), { s with snapshot })
    | .error fault => (.error fault, s)

/-- The reads since the last collection. -/
def collectReads : Action (List (Nat × Nat)) :=
  modifyGet fun s => (s.reads, { s with reads := [] })

/-! ## Hooks and cursors -/

def register (hook : Hook) : Action Bool :=
  modifyGet fun s =>
    (!s.registry.isRegistered hook.name, { s with registry := s.registry.register hook })

/-- The printer that the hooks choose for a value. -/
def lookup (v : Value) : Action (Option Printer) := do
  let s ← get
  observe fun program settings => s.registry.lookup program settings v

/-- Keeps a cursor before the first child, and gives its number. -/
def startCursor (printer : Printer) : Action Nat :=
  modifyGet fun s => (s.cursors.size, { s with cursors := s.cursors.push printer.cursor })

/-- The next child of the cursor with that number. -/
def pull (number : Nat) : Action (Option Child) := do
  let s ← get
  match s.cursors[number]? with
  | none => pure none
  | some cursor => do
    let (child, cursor) ← observe fun program settings => cursor.next program settings
    modify fun s => { s with cursors := s.cursors.setIfInBounds number cursor }
    pure child

def display (v : Value) : Action String := do
  let s ← get
  observe fun program settings => Display.line program settings s.registry v

/-! ## The log -/

def addLine (line : String) : Action Unit := modify fun s => { s with log := s.log.add line }

def clearLog : Action Unit := modify fun s => { s with log := .empty }

end Session

end HeapLens
