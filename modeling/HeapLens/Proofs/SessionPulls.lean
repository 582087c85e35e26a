import HeapLens.Proofs.DictCalls
import HeapLens.Proofs.DictListing
import HeapLens.Proofs.ListCalls
import HeapLens.Session

/-!
# Cursors of a session

In a session cursors take turns, and types and memory are replaced in between. Here
this comes down to calls on a single cursor:

> `answered_moments`: whatever else is done, the pulls of one cursor answer as
> `calls` says, for the programs that they find; these answers are all that they add
> to the session's reads and log.

`cursor_protocol` puts the calls of both kinds of cursors on top.
-/

namespace HeapLens.Session

/-- Something done in a session that has to do with cursors, or that may get in
their way. -/
inductive Move where
  | pull (number : Nat)
  | start (printer : Printer)
  | setTypes (types : TypeTable)
  | setSnapshot (snapshot : Snapshot)
  deriving DecidableEq, Repr

def perform (s : Session) : Move → Session
  | .pull number => ((pull number).run s).2
  | .start printer => ((startCursor printer).run s).2
  | .setTypes types => { s with types }
  | .setSnapshot snapshot => { s with snapshot }

/-- The sessions in which cursor `number` is pulled, in the course of some moves. -/
def moments (number : Nat) : Session → List Move → List Session
  | _, [] => []
  | s, move :: moves =>
    if move = .pull number then s :: moments number (s.perform move) moves
    else moments number (s.perform move) moves

/-- A pull gives what the call gave, and adds the call's reads and notes to those of
the session. -/
def Answered (number : Nat) (before : Session) (call : Traced (Option Child)) : Prop :=
  ((pull number).run before).1 = call.value ∧
    ((pull number).run before).2.reads = before.reads ++ call.reads ∧
    ((pull number).run before).2.log = before.log.addAll call.notes

variable {s : Session} {number : Nat} {cursor : Cursor}

/-! ## One move -/

/-- To pull is to call the cursor once, with the program as it is at that moment. -/
theorem run_pull (h : s.cursors[number]? = some cursor) :
    (pull number).run s =
      ((cursor.next s.program s.settings).value.1,
        { s.absorb (cursor.next s.program s.settings) with
          cursors := s.cursors.setIfInBounds number
            (cursor.next s.program s.settings).value.2 }) := by
  simp only [pull, StateT.run_bind, StateT.run_get, pure_bind, h]
  rfl

theorem run_pull_of_none (h : s.cursors[number]? = none) : (pull number).run s = (none, s) := by
  simp only [pull, StateT.run_bind, StateT.run_get, pure_bind, h]
  rfl

/-- A pull is answered as a call of the cursor is. -/
theorem answered_next (h : s.cursors[number]? = some cursor) :
    Answered number s (Prod.fst <$> cursor.next s.program s.settings) := by
  unfold Answered
  rw [run_pull h]
  exact ⟨rfl, rfl, rfl⟩

/-- A pull of the cursor leaves it where the call does. -/
theorem cursor_perform_pull (h : s.cursors[number]? = some cursor) :
    (s.perform (.pull number)).cursors[number]? =
        some (cursor.next s.program s.settings).value.2 ∧
      (s.perform (.pull number)).settings = s.settings := by
  obtain ⟨hlt, -⟩ := Array.getElem?_eq_some_iff.mp h
  show ((pull number).run s).2.cursors[number]? = _ ∧ ((pull number).run s).2.settings = _
  rw [run_pull h]
  exact ⟨Array.getElem?_setIfInBounds_self_of_lt hlt, rfl⟩

/-- No other move touches the cursor. -/
theorem cursor_perform_of_ne {move : Move} (hne : move ≠ .pull number)
    (h : s.cursors[number]? = some cursor) :
    (s.perform move).cursors[number]? = some cursor ∧ (s.perform move).settings = s.settings := by
  obtain ⟨hlt, -⟩ := Array.getElem?_eq_some_iff.mp h
  cases move with
  | pull other =>
    show ((pull other).run s).2.cursors[number]? = _ ∧ ((pull other).run s).2.settings = _
    cases hother : s.cursors[other]? with
    | none =>
      rw [run_pull_of_none hother]
      exact ⟨h, rfl⟩
    | some there =>
      have hapart : other ≠ number := fun heq => hne (heq ▸ rfl)
      rw [run_pull hother]
      exact ⟨(Array.getElem?_setIfInBounds_ne hapart).trans h, rfl⟩
  | start printer =>
    -- A new cursor comes behind those that are there.
    refine ⟨?_, rfl⟩
    show (s.cursors.push printer.cursor)[number]? = some cursor
    rw [Array.getElem?_push, if_neg (Nat.ne_of_lt hlt)]
    exact h
  | setTypes types => exact ⟨h, rfl⟩
  | setSnapshot snapshot => exact ⟨h, rfl⟩

/-! ## Any moves -/

/-- The pulls of a cursor are its calls, on the programs of their moments. -/
theorem answered_moments (number : Nat) :
    ∀ (moves : List Move) (s : Session) (cursor : Cursor), s.cursors[number]? = some cursor →
      List.Forall₂ (Answered number) (s.moments number moves)
        (cursor.calls s.settings ((s.moments number moves).map program)) := by
  intro moves
  induction moves with
  | nil =>
    intro s cursor _
    exact .nil
  | cons move moves ih =>
    intro s cursor h
    -- A pull of the cursor is its next call; after any other move the next call is
    -- still due.
    by_cases hpull : move = .pull number
    · obtain ⟨hafter, hsettings⟩ := cursor_perform_pull h
      have hrest := ih (s.perform (.pull number)) _ hafter
      rw [moments, if_pos hpull, hpull, List.map_cons, Cursor.calls]
      rw [hsettings] at hrest
      exact .cons (answered_next h) hrest
    · obtain ⟨hafter, hsettings⟩ := cursor_perform_of_ne hpull h
      have hrest := ih (s.perform move) cursor hafter
      rw [moments, if_neg hpull]
      rwa [hsettings] at hrest

/-! ## The protocol -/

/-- **The protocol of cursors.** The calls on a list and on a dictionary keep to it
whatever programs they find, and the pulls of a session's cursor are such calls,
whatever else happens in the session. Starting a cursor reads nothing and leaves no
note. -/
theorem cursor_protocol :
    (∀ settings subject elem first later,
      ListCursor.Protocol settings ⟨subject, .list elem⟩ first later) ∧
    (∀ settings subject key value first later,
      DictCursor.Protocol settings ⟨subject, .dict key value⟩ first later) ∧
    (∀ (s : Session) (printer : Printer) (moves : List Move),
      let started := s.perform (.start printer)
      let pulled := started.moments s.cursors.size moves
      started.reads = s.reads ∧ started.log = s.log ∧
      List.Forall₂ (Answered s.cursors.size) pulled
        (printer.cursor.calls s.settings (pulled.map program))) := by
  refine ⟨ListCursor.protocol, DictCursor.protocol, ?_⟩
  intro s printer moves
  refine ⟨rfl, rfl, ?_⟩
  have hstarted : (s.perform (.start printer)).cursors[s.cursors.size]? = some printer.cursor :=
    Array.getElem?_push_size
  exact answered_moments s.cursors.size moves _ _ hstarted

def unmapped : Program := ⟨DictCursor.holeTypes, Snapshot.empty.memory⟩

/-- All memory is unmapped between a key and its value: the value is given all the
same, and the walk ends behind it. -/
theorem protocol_unmapped :
    (∃ found, DictCursor.Walks {} (.stored 0x1010 3) 0 3 0
      [DictCursor.holeProgram, unmapped, unmapped]
      ((Printer.cursor ⟨.stored 0x1000 4, .dict "i64" "i64"⟩).calls {}
        [DictCursor.holeProgram, unmapped, unmapped]) found) ∧
    ((Printer.cursor ⟨.stored 0x1000 4, .dict "i64" "i64"⟩).calls {}
        [DictCursor.holeProgram, unmapped, unmapped]).map Traced.value =
      [some ⟨"[0].key", .stored 0x2020 1⟩, some ⟨"[0].value", .stored 0x2028 1⟩, none] := by
  refine ⟨?_, rfl⟩
  have hdict := cursor_protocol.2.1 {} (.stored 0x1000 4) "i64" "i64" DictCursor.holeProgram
    [unmapped, unmapped]
  exact hdict.opened _ _ DictCursor.opens_hole

end HeapLens.Session
