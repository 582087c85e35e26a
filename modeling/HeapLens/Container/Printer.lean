import HeapLens.Container.Name
import HeapLens.Container.Tag
import HeapLens.Value.Step
import HeapLens.Text.Utf8

/-!
# Printers: a container's one line

A `Printer` shows one value as one of the runtime's containers. It gives a summary
and a hint at how the value is to be shown. It never fails: where the value cannot
be decoded the summary is a placeholder, and the reason is left as a note.
-/

namespace HeapLens

/-! ## Fields of the runtime's structs -/

/-- The names of fields, the same for every instance of a container. -/
inductive RuntimeField where
  | length
  | data
  | capacity
  | slots
  | status
  | key
  | value
  deriving DecidableEq, Repr

def RuntimeField.name : RuntimeField → String
  | length => "len"
  | data => "data"
  | capacity => "cap"
  | slots => "e"
  | status => "st"
  | key => "key"
  | value => "value"

namespace Program

def runtimeField (program : Program) (v : Value) (f : RuntimeField) : Except Fault Value :=
  program.field v f.name

/-- The integer in a field of the runtime. -/
def readCount (program : Program) (v : Value) (f : RuntimeField) : Look Int := do
  let count ← liftM (program.runtimeField v f)
  program.readInt count

/-- A count fits into eight bytes, whatever the field's type is. -/
theorem readCount_lt {program : Program} {v : Value} {f : RuntimeField} {n : Int}
    (h : (program.readCount v f).result = .ok n) : 2 * n < addressLimit := by
  obtain ⟨count, -, h⟩ := Look.exists_of_result_bind h
  exact readInt_lt h

/-- The struct of a container that is given directly or through one pointer; `none`
if that is null. -/
def openContainer (program : Program) (v : Value) : Look (Option Value) :=
  if program.isPointer v then do
    let addr ← program.readPointer v
    if addr = 0 then pure none
    else some <$> program.dereference v
  else pure (some v)

def isNullPointer (program : Program) (v : Value) : Traced Bool :=
  if program.isPointer v then do
    match ← (program.readPointer v).run with
    | .ok addr => pure (addr == 0)
    | .error _ => pure false
  else pure false

end Program

/-! ## Giving up with a note -/

/-- The line that reports a fault in `what`. -/
def failureLine (what : String) (fault : Fault) : String := s!"{what}: {fault.message}"

/-- The result of `x`. A fault is left as a note, and `fallback` taken instead. -/
def Look.orNote (x : Look α) (what : String) (fallback : α) : Traced α := do
  match ← x.run with
  | .ok a => pure a
  | .error fault => do
    Traced.note (failureLine what fault)
    pure fallback

/-- In place of a fault there is the fallback. -/
@[simp] theorem Look.value_orNote (x : Look α) (what : String) (fallback : α) :
    (x.orNote what fallback).value = x.result.toOption.getD fallback := by
  unfold orNote
  rw [Traced.value_bind, Look.value_run]
  cases x.result <;> rfl

/-- A note is left for a fault and for nothing else. -/
theorem Look.events_orNote (x : Look α) (what : String) (fallback : α) :
    (x.orNote what fallback).events =
      x.events ++ match x.result with
        | .ok _ => []
        | .error fault => [.note (failureLine what fault)] := by
  unfold orNote
  rw [Traced.events_bind, Look.value_run, Look.events_run]
  cases x.result <;> rfl

/-! ## Printers -/

structure Printer where
  subject : Value
  /-- The container, with names of types instead of tags. -/
  container : Container
  deriving DecidableEq, Repr

inductive Hint where
  /-- The summary as it is. -/
  | plain
  /-- The summary as a quoted text. -/
  | string
  /-- The children one after the other. -/
  | array
  /-- The children in pairs of key and value. -/
  | map
  deriving DecidableEq, Repr

def Hint.name? : Hint → Option String
  | plain => none
  | string => some "string"
  | array => some "array"
  | map => some "map"

/-- The container with the names of types that its tags stand for. -/
def Container.named : Container → Container
  | text => text
  | list elem => list (tagName elem)
  | dict key value => dict (tagName key) (tagName value)

section

variable {c : Container} {elem key value : String}

/-- Only a text is named as a text. -/
theorem Container.named_eq_text_iff : c.named = text ↔ c = text := by
  cases c <;> simp [named]

/-- Only a list is named as a list, after the tag of its elements. -/
theorem Container.named_eq_list_iff :
    c.named = list elem ↔ ∃ tag, c = list tag ∧ tagName tag = elem := by
  cases c <;> simp [named]

/-- Only a dictionary is named as a dictionary, after the tags of its keys and
values. -/
theorem Container.named_eq_dict_iff :
    c.named = dict key value ↔
      ∃ keyTag valueTag, c = dict keyTag valueTag ∧ tagName keyTag = key ∧
        tagName valueTag = value := by
  cases c with
  | text | list => simp [named]
  | dict keyTag valueTag =>
    simp only [named, dict.injEq]
    constructor
    · rintro ⟨hkey, hvalue⟩
      exact ⟨keyTag, valueTag, ⟨rfl, rfl⟩, hkey, hvalue⟩
    · rintro ⟨k, v, ⟨rfl, rfl⟩, hkey, hvalue⟩
      exact ⟨hkey, hvalue⟩

end

/-- What a container is called in summaries and in the log. -/
def Container.title : Container → String
  | text => "Str"
  | list elem => s!"List[{elem}]"
  | dict key value => s!"Dict[{key}, {value}]"

/-- Shown instead of a summary that failed. -/
def Container.placeholder : Container → String
  | text => "<str?>"
  | list _ => "<list?>"
  | dict _ _ => "<dict?>"

namespace Printer

/-- The printer that shows `v` as `container`, given by its tags. -/
def ofContainer (v : Value) (container : Container) : Printer := ⟨v, container.named⟩

/-- The text of a string's struct. Of a string that is too long the beginning is
taken, and a note left. -/
def decodeText (program : Program) (settings : Settings) (v : Value) : Look String := do
  let length ← program.readCount v .length
  let data ← liftM (program.runtimeField v .data)
  let addr ← program.readPointer data
  if addr = 0 then pure ""
  else if length < 0 then throw (.negativeLength length)
  else if settings.maxTextBytes < length then do
    let bytes ← program.readBytes data settings.maxTextBytes
    let cause := Fault.textTooLong length settings.maxTextBytes
    liftM (Traced.note (failureLine Container.text.title cause))
    pure (Text.Utf8.lossy bytes ++ "...")
  else do
    let bytes ← program.readBytes data length.toNat
    pure (Text.Utf8.lossy bytes)

/-- The title of a list or dictionary with the number of its entries. -/
def decodeCount (program : Program) (container : Container) (v : Value) : Look String := do
  let length ← program.readCount v .length
  pure s!"{container.title}({length})"

/-- The summary, or the fault that keeps it from being made. -/
def decode (program : Program) (settings : Settings) (p : Printer) : Look String := do
  match ← program.openContainer p.subject with
  | none => pure settings.nullText
  | some v =>
    match p.container with
    | .text => decodeText program settings v
    | .list _ | .dict _ _ => decodeCount program p.container v

/-- The value on one line. -/
def summary (program : Program) (settings : Settings) (p : Printer) : Traced String :=
  (p.decode program settings).orNote p.container.title p.container.placeholder

/-- How the value is to be shown. A null string is no text. -/
def hint (program : Program) (p : Printer) : Traced Hint :=
  match p.container with
  | .text => do
    let null ← program.isNullPointer p.subject
    pure (if null then .plain else .string)
  | .list _ => pure .array
  | .dict _ _ => pure .map

end Printer

end HeapLens
