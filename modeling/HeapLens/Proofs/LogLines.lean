import HeapLens.Proofs.CursorEnding
import HeapLens.Proofs.SessionPulls

/-!
# What the log says

Nothing that fails is shown as a failure; the log is the only trace of it. Here it
is settled which lines an operation leaves:

> a summary: one line if the value cannot be decoded, or if its text was cut
> (`Printer.SummaryLogged`); a hint, the choice of a printer, the start of a cursor:
> none; a cursor: one line in its whole life if a failure ended it, and none
> otherwise (`Cursor.Life`).

A session adds these lines to its log in the order in which they come, and the log
keeps the last hundred of them since it was cleared (`Session.log_carryOutAll`).
-/

namespace HeapLens

open Look (Quiet)

/-! ## Summaries -/

namespace Look

/-- What is made of a result need not be quiet for any other. -/
theorem Quiet.bind_of_ok {x : Look α} {f : α → Look β} (h : x.Quiet)
    (hrest : ∀ a, x.result = .ok a → (f a).Quiet) : (x >>= f).Quiet := by
  have still : x.run.notes = [] := h
  unfold Quiet
  rw [ExceptT.run_bind, Traced.notes_bind, still]
  cases found : x.result with
  | ok a =>
    rw [value_run, found]
    exact hrest a found
  | error fault =>
    rw [value_run, found]
    rfl

/-- Behind a look that leaves no note only the notes of what follows count. -/
theorem Quiet.notes_bind {x : Look α} {f : α → Look β} {a : α} (h : x.Quiet)
    (found : x.result = .ok a) : (x >>= f).run.notes = (f a).run.notes := by
  have still : x.run.notes = [] := h
  rw [ExceptT.run_bind, Traced.notes_bind, still, value_run, found]
  rfl

end Look

namespace Program

theorem quiet_readBytes (program : Program) (v : Value) (len : Nat) :
    (program.readBytes v len).Quiet := by
  refine (program.quiet_readPointer v).bind fun addr => ?_
  split <;> rfl

end Program

namespace Printer

/-- The text of `length` bytes in a buffer that is not null. -/
def bufferText (program : Program) (settings : Settings) (data : Value) (length : Int) :
    Look String :=
  if length < 0 then throw (.negativeLength length)
  else if settings.maxTextBytes < length then do
    let bytes ← program.readBytes data settings.maxTextBytes
    let cause := Fault.textTooLong length settings.maxTextBytes
    liftM (Traced.note (failureLine Container.text.title cause))
    pure (Text.Utf8.lossy bytes ++ "...")
  else do
    let bytes ← program.readBytes data length.toNat
    pure (Text.Utf8.lossy bytes)

/-- Decoding a text is to find its length and its address, and then to read the
bytes there. -/
theorem decodeText_eq (program : Program) (settings : Settings) (v : Value) :
    decodeText program settings v =
      program.readCount v .length >>= fun length =>
        liftM (program.runtimeField v .data) >>= fun data =>
          program.readPointer data >>= fun addr =>
            if addr = 0 then pure "" else bufferText program settings data length := rfl

/-- The printer shows a text of `length` bytes, more than are read of it, and those
can be read. -/
def Cut (program : Program) (settings : Settings) (p : Printer) (length : Int) : Prop :=
  p.container = .text ∧ settings.maxTextBytes < length ∧
    ∃ data bytes, Opens program p.subject .length .data data length ∧
      (program.readBytes data settings.maxTextBytes).result = .ok bytes

/-- What a summary leaves for the log. -/
structure SummaryLogged (program : Program) (settings : Settings) (p : Printer) : Prop where
  failed : ∀ fault, (p.decode program settings).result = .error fault →
    (p.summary program settings).notes = [failureLine p.container.title fault]
  cut : ∀ length, p.Cut program settings length →
    (∃ text, (p.decode program settings).result = .ok text) ∧
      (p.summary program settings).notes =
        [failureLine p.container.title (.textTooLong length settings.maxTextBytes)]
  whole : (∃ text, (p.decode program settings).result = .ok text) →
    (∀ length, ¬ p.Cut program settings length) → (p.summary program settings).notes = []

variable {program : Program} {settings : Settings} {p : Printer} {data : Value} {length : Int}

/-- Only a text that is cut leaves a note, and only if the bytes that are left of it
can be read. -/
theorem quiet_bufferText
    (h : settings.maxTextBytes < length →
      ∀ bytes, (program.readBytes data settings.maxTextBytes).result ≠ .ok bytes) :
    (bufferText program settings data length).Quiet := by
  unfold bufferText
  split
  · rfl
  · split
    · next long =>
      -- The note stands behind bytes that cannot be read.
      exact (program.quiet_readBytes data _).bind_of_ok fun bytes found =>
        absurd found (h long bytes)
    · exact (program.quiet_readBytes data _).bind fun bytes => rfl

/-- A text that is cut is shown as far as it was read, and leaves a note with its
length. -/
theorem bufferText_of_cut (long : settings.maxTextBytes < length) {bytes : List UInt8}
    (read : (program.readBytes data settings.maxTextBytes).result = .ok bytes) :
    (bufferText program settings data length).result = .ok (Text.Utf8.lossy bytes ++ "...") ∧
      (bufferText program settings data length).run.notes =
        [failureLine Container.text.title (.textTooLong length settings.maxTextBytes)] := by
  have notNegative : ¬ length < 0 := by omega
  unfold bufferText
  rw [if_neg notNegative, if_pos long]
  constructor
  · rw [Look.result_bind_of_ok read]
    rfl
  · rw [(program.quiet_readBytes data _).notes_bind read]
    rfl

/-- Nothing but a text that is cut leaves a note while it is decoded. -/
theorem quiet_decode (h : ∀ length, ¬ p.Cut program settings length) :
    (p.decode program settings).Quiet := by
  obtain ⟨subject, container⟩ := p
  refine (program.quiet_openContainer subject).bind_of_ok fun opened hopened => ?_
  cases opened with
  | none => rfl
  | some body =>
    cases container with
    | list elem => exact (program.quiet_readCount body .length).bind fun length => rfl
    | dict key value => exact (program.quiet_readCount body .length).bind fun length => rfl
    | text =>
      show (decodeText program settings body).Quiet
      rw [decodeText_eq]
      refine (program.quiet_readCount body .length).bind_of_ok fun length hlength => ?_
      refine (Look.quiet_lift (program.runtimeField body .data)).bind_of_ok fun data hdata => ?_
      refine (program.quiet_readPointer data).bind_of_ok fun addr haddr => ?_
      split
      · rfl
      · next notNull =>
        refine quiet_bufferText fun long bytes read => h length ⟨rfl, long, data, bytes, ?_, read⟩
        exact ⟨body, addr, result_openContainer_eq_some_iff.mp hopened, hlength, hdata, haddr,
          notNull⟩

/-- The note comes out of decoding as it was left, since nothing before it leaves
one. -/
theorem decode_of_cut (h : p.Cut program settings length) :
    (∃ text, (p.decode program settings).result = .ok text) ∧
      (p.decode program settings).run.notes =
        [failureLine p.container.title (.textTooLong length settings.maxTextBytes)] := by
  obtain ⟨subject, container⟩ := p
  obtain ⟨rfl, long, data, bytes, ⟨body, addr, reached, hlength, hdata, haddr, notNull⟩, read⟩ := h
  have hopened := result_openContainer_eq_some_iff.mpr reached
  obtain ⟨hresult, hnotes⟩ := bufferText_of_cut long read
  have found : (liftM (program.runtimeField body .data) : Look Value).result = .ok data := hdata
  unfold decode
  constructor
  · rw [Look.result_bind_of_ok hopened]
    dsimp only
    rw [decodeText_eq, Look.result_bind_of_ok hlength, Look.result_bind_of_ok found,
      Look.result_bind_of_ok haddr, if_neg notNull]
    exact ⟨_, hresult⟩
  · rw [(program.quiet_openContainer subject).notes_bind hopened]
    dsimp only
    rw [decodeText_eq, (program.quiet_readCount body .length).notes_bind hlength,
      (Look.quiet_lift _).notes_bind found, (program.quiet_readPointer data).notes_bind haddr,
      if_neg notNull]
    exact hnotes

/-- What is left for the log is settled by the fault, or by the cut if there is no
fault. -/
theorem summaryLogged (program : Program) (settings : Settings) (p : Printer) :
    SummaryLogged program settings p where
  failed fault h := by
    have whole : ∀ length, ¬ p.Cut program settings length := by
      intro length hcut
      obtain ⟨text, htext⟩ := (decode_of_cut hcut).1
      rw [h] at htext
      cases htext
    exact (quiet_decode whole).notes_orNote_of_error h _ _
  cut length h := by
    obtain ⟨⟨text, htext⟩, hnotes⟩ := decode_of_cut h
    refine ⟨⟨text, htext⟩, ?_⟩
    unfold summary Look.orNote
    rw [Traced.notes_bind, hnotes, Look.value_run, htext]
    rfl
  whole h whole := by
    obtain ⟨text, htext⟩ := h
    exact (quiet_decode whole).notes_orNote_of_ok htext _ _

/-! ## Hints and hooks -/

/-- A hint leaves no note, whether or not a pointer can be read. -/
theorem notes_hint (program : Program) (p : Printer) : (p.hint program).notes = [] := by
  obtain ⟨subject, container⟩ := p
  cases container with
  | list elem => rfl
  | dict key value => rfl
  | text =>
    have null : (program.isNullPointer subject).notes = [] := by
      unfold Program.isNullPointer
      split
      · have still : (program.readPointer subject).run.notes = [] :=
          program.quiet_readPointer subject
        rw [Traced.notes_bind, still]
        split <;> rfl
      · rfl
    show ((program.isNullPointer subject >>= _ : Traced Hint)).notes = []
    rw [Traced.notes_bind, null]
    rfl

end Printer

/-- A hook leaves nothing for the log, whether it claims a value or declines it. -/
def Hook.Silent (hook : Hook) : Prop :=
  ∀ program settings v, (hook.claim program settings v).notes = []

/-- The runtime's hook goes by the spelling of a type, and has nothing to note. -/
theorem Hook.silent_runtime : Hook.runtime.Silent := fun _ _ _ => rfl

namespace Registry

def Silent (registry : Registry) : Prop := ∀ hook ∈ registry.hooks, hook.Silent

theorem silent_empty : empty.Silent := by
  intro hook h
  cases h

theorem Silent.register {registry : Registry} {hook : Hook} (h : registry.Silent)
    (silent : hook.Silent) : (registry.register hook).Silent := by
  unfold Registry.register
  split
  · exact h
  · intro other hother
    rcases List.mem_append.mp hother with there | new
    · exact h other there
    · rw [List.mem_singleton.mp new]
      exact silent

/-- Asking the hooks leaves no more than the hooks do. -/
theorem Silent.notes_lookup {registry : Registry} (h : registry.Silent) (program : Program)
    (settings : Settings) (v : Value) : (registry.lookup program settings v).notes = [] := by
  obtain ⟨hooks⟩ := registry
  show (Hook.firstClaim program settings v hooks).notes = []
  induction hooks with
  | nil => rfl
  | cons hook rest ih =>
    have hhook : hook.Silent := h hook List.mem_cons_self
    have hrest : Silent ⟨rest⟩ := fun other hother => h other (List.mem_cons_of_mem hook hother)
    rw [Hook.firstClaim, Traced.notes_bind, hhook]
    split
    · rfl
    · exact ih hrest

end Registry

/-! ## Sessions -/

theorem Log.addAll_append (log : Log) (first rest : List String) :
    log.addAll (first ++ rest) = (log.addAll first).addAll rest := List.foldl_append

theorem Log.recent_suffix (lines : List String) : recent lines <:+ lines := List.drop_suffix _ _

theorem Log.length_recent (lines : List String) :
    (recent lines).length = min 100 lines.length := by
  unfold recent capacity
  rw [List.length_drop]
  omega

namespace Session

/-- Something done in a session that may have to do with its log. -/
inductive Deed where
  | summarize (printer : Printer)
  | hint (printer : Printer)
  | lookup (v : Value)
  | display (v : Value)
  | register (hook : Hook)
  | move (move : Move)
  | addLine (line : String)
  | clearLog

def carryOut (s : Session) : Deed → Session
  | .summarize printer =>
    ((observe fun program settings => printer.summary program settings).run s).2
  | .hint printer => ((observe fun program _ => printer.hint program).run s).2
  | .lookup v => ((lookup v).run s).2
  | .display v => ((display v).run s).2
  | .register hook => ((register hook).run s).2
  | .move move => s.perform move
  | .addLine line => ((addLine line).run s).2
  | .clearLog => (clearLog.run s).2

/-- The session behind some deeds. -/
def carryOutAll (s : Session) (deeds : List Deed) : Session := deeds.foldl carryOut s

/-- The lines that a pull leaves for the log: those of the call, if there is such a
cursor. -/
def pullLines (s : Session) (number : Nat) : List String :=
  match s.cursors[number]? with
  | none => []
  | some cursor => (cursor.next s.program s.settings).notes

/-- The lines that a deed leaves for the log. -/
def lines (s : Session) : Deed → List String
  | .summarize printer => (printer.summary s.program s.settings).notes
  | .lookup v => (s.registry.lookup s.program s.settings v).notes
  | .display v => (Display.line s.program s.settings s.registry v).notes
  | .move (.pull number) => s.pullLines number
  | .addLine line => [line]
  | .hint _ | .register _ | .move _ | .clearLog => []

/-- The lines since the log was cleared, behind one more deed. Those before it are
`past`. -/
def linesBehind (s : Session) (past : List String) : Deed → List String
  | .clearLog => []
  | deed => past ++ s.lines deed

/-- The lines since the log was cleared, behind some deeds. Those before them are
`past`. -/
def linesSince : Session → (past : List String) → List Deed → List String
  | _, past, [] => past
  | s, past, deed :: deeds => linesSince (s.carryOut deed) (s.linesBehind past deed) deeds

/-- To observe a value adds the notes of that look to the log. -/
theorem log_observe (s : Session) (x : Program → Settings → Traced α) :
    ((observe x).run s).2.log = s.log.addAll (x s.program s.settings).notes := rfl

theorem log_pull (s : Session) (number : Nat) :
    ((pull number).run s).2.log = s.log.addAll (s.pullLines number) := by
  unfold pullLines
  cases found : s.cursors[number]? with
  | none =>
    rw [run_pull_of_none found]
    rfl
  | some cursor =>
    rw [run_pull found]
    rfl

/-- One deed adds the lines that it leaves, unless it clears the log. -/
theorem log_carryOut (s : Session) {past : List String} (h : s.log = Log.empty.addAll past)
    (deed : Deed) : (s.carryOut deed).log = Log.empty.addAll (s.linesBehind past deed) := by
  have added : ∀ {log : Log} {lines : List String}, log = s.log.addAll lines →
      log = Log.empty.addAll (past ++ lines) := by
    intro log lines hlog
    rw [hlog, h, Log.addAll_append]
  cases deed with
  | summarize printer => exact added (s.log_observe _)
  | hint printer =>
    refine added ?_
    show ((observe _).run s).2.log = _
    rw [s.log_observe, printer.notes_hint]
    rfl
  | lookup v => exact added rfl
  | display v => exact added rfl
  | register hook => exact added rfl
  | addLine line => exact added rfl
  | clearLog => rfl
  | move move =>
    cases move with
    | start printer => exact added rfl
    | setTypes types => exact added rfl
    | setSnapshot snapshot => exact added rfl
    | pull number => exact added (s.log_pull number)

/-- The log holds what was left since it was cleared, by induction on the deeds. -/
theorem log_carryOutAll : ∀ (deeds : List Deed) (s : Session) (past : List String),
    s.log = Log.empty.addAll past →
    (s.carryOutAll deeds).log = Log.empty.addAll (s.linesSince past deeds) := by
  intro deeds
  induction deeds with
  | nil =>
    intro s past h
    exact h
  | cons deed deeds ih =>
    intro s past h
    exact ih (s.carryOut deed) (s.linesBehind past deed) (s.log_carryOut h deed)

end Session

/-! ## The log as the only trace -/

/-- **Every failure is logged once, and nothing else is.** A summary leaves one line
if the value cannot be decoded or its text was cut. Hints, the choice of a printer
and the start of a cursor leave none, and a cursor leaves one in its life exactly if
a failure ended it, with the call that first gives no child. The log of a session
that began with an empty one holds the last hundred lines since it was cleared. -/
theorem failures_logged_once (settings : Settings) :
    (∀ (program : Program) (printer : Printer), printer.SummaryLogged program settings) ∧
    (∀ (program : Program) (printer : Printer), (printer.hint program).notes = []) ∧
    Hook.runtime.Silent ∧
    (∀ (program : Program) (registry : Registry) (v : Value), registry.Silent →
      (registry.lookup program settings v).notes = []) ∧
    (∀ (s : Session) (printer : Printer), ((Session.startCursor printer).run s).2.log = s.log) ∧
    (∀ (cursor : Cursor) (programs : List Program),
      ∃ count, Cursor.Life settings cursor programs count) ∧
    (∀ (s : Session) (deeds : List Session.Deed), s.log = .empty →
      (s.carryOutAll deeds).log.lines <:+ s.linesSince [] deeds ∧
        (s.carryOutAll deeds).log.lines.length = min 100 (s.linesSince [] deeds).length) := by
  refine ⟨fun program printer => printer.summaryLogged program settings,
    fun program printer => printer.notes_hint program, Hook.silent_runtime,
    fun program registry v h => h.notes_lookup program settings v, fun s printer => rfl,
    fun cursor programs => Cursor.exists_life settings programs cursor, ?_⟩
  intro s deeds h
  have log := s.log_carryOutAll deeds [] h
  rw [log, Log.lines_addAll]
  exact ⟨Log.recent_suffix _, Log.length_recent _⟩

open DictCursor (holeTypes holeMemory holeProgram) in
/-- Three slots are promised and two are there. The call that looks for the third
gives no child and leaves a line, and the calls behind it leave none. What was in
the log before it was cleared is gone. -/
theorem failures_logged_once_hole :
    let printer : Printer := ⟨.stored 0x1000 4, .dict "i64" "i64"⟩
    let calls := printer.cursor.calls {} (List.replicate 4 holeProgram)
    let s : Session := { types := holeTypes, snapshot := holeMemory }
    let deeds : List Session.Deed :=
      [.addLine "before", .clearLog, .move (.start printer)] ++
        List.replicate 4 (.move (.pull 0)) ++ [.addLine "behind"]
    (∃ count, Cursor.Life {} printer.cursor (List.replicate 4 holeProgram) count) ∧
    calls.map Traced.notes = [[], [], ["Dict slot 2: bad address 0x2030"], []] ∧
    ((Registry.empty.register .runtime).lookup holeProgram {} printer.subject).notes = [] ∧
    s.linesSince [] deeds = ["Dict slot 2: bad address 0x2030", "behind"] ∧
    (s.carryOutAll deeds).log.lines <:+ s.linesSince [] deeds ∧
    (s.carryOutAll deeds).log.lines.length = min 100 (s.linesSince [] deeds).length := by
  intro printer calls s deeds
  obtain ⟨-, -, runtime, lookup, -, life, session⟩ := failures_logged_once {}
  have silent : (Registry.empty.register .runtime).Silent :=
    Registry.silent_empty.register runtime
  have notes : calls.map Traced.notes = [[], [], ["Dict slot 2: bad address 0x2030"], []] := rfl
  have lines : s.linesSince [] deeds = ["Dict slot 2: bad address 0x2030", "behind"] := by
    decide +kernel
  exact ⟨life printer.cursor _, notes, lookup holeProgram _ printer.subject silent, lines,
    session s deeds rfl⟩

end HeapLens
