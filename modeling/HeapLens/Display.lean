import HeapLens.Container.Cursor
import HeapLens.Value.Parts
import HeapLens.Registry
import HeapLens.Text.Quoted

/-!
# A value on one line

```
"hello"                               a string
List[i64](3) = {1, 2, 3}              a list
Dict[str, i64](2) = {["a"] = 1, ...}  a dictionary
{name = "ann", age = 30}              a struct that no hook claims
*0x5555000000a0 {...}                 a pointer to a struct, followed
```

Nothing here fails: a fault is shown in place. How deep values are opened is bounded
by *levels*. What lies inside a value is one level down; what a pointer leads to is on
the pointer's level, and is not a pointer itself. A value is rendered by means of
`deeper`, which renders a value one level down, and is missing on the last level.
-/

namespace HeapLens.Display

/-- Stands for what is left out. -/
def ellipsis : String := "..."

/-- A value that is not opened. -/
def closed : String := "\x7b...\x7d"

def braced (items : List String) : String := "\x7b" ++ ", ".intercalate items ++ "\x7d"

/-- A fault, shown where the value would stand. -/
def errorText (fault : Fault) : String := s!"<error: {fault.message}>"

/-- The result of a look, or its fault as text. -/
def shown (x : Look String) : Traced String := do
  match ← x.run with
  | .ok text => pure text
  | .error fault => pure (errorText fault)

section

variable (program : Program) (settings : Settings)

/-! ## Containers -/

/-- One entry of a container, which begins with `child`, and the cursor behind it.
For a map the entry takes a second child. -/
def entry (deeper : Value → Traced String) (hint : Hint) (child : Child) (cursor : Cursor) :
    Traced (String × Cursor) :=
  match hint with
  | .map => do
    let key ← deeper child.value
    match ← cursor.next program settings with
    | (some due, cursor) => do
      let value ← deeper due.value
      pure (s!"[{key}] = {value}", cursor)
    | (none, cursor) => pure (s!"[{key}] = <missing value>", cursor)
  | _ => do
    let text ← deeper child.value
    pure (text, cursor)

/-- Up to `room` entries, the first of which begins with `child?`. What does not fit
is asked for once, to know whether something is left out. -/
def entries (deeper : Value → Traced String) (hint : Hint) :
    (room : Nat) → (child? : Option Child) → Cursor → Traced (List String)
  | _, none, _ => pure []
  | 0, some _, _ => pure [ellipsis]
  | room + 1, some child, cursor => do
    let (text, cursor) ← entry program settings deeper hint child cursor
    let (next, cursor) ← cursor.next program settings
    (text :: ·) <$> entries deeper hint room next cursor

/-- A container with its children: none of them is opened on the last level. -/
def container (deeper : Option (Value → Traced String)) (printer : Printer) (hint : Hint)
    (summary : String) : Traced String := do
  let (first, cursor) ← printer.cursor.next program settings
  match first, deeper with
  | none, _ => pure summary
  | some _, none => pure (summary ++ " = " ++ closed)
  | some child, some deeper => do
    let items ← entries program settings deeper hint settings.maxShownChildren (some child) cursor
    pure (summary ++ " = " ++ braced items)

def claimed (deeper : Option (Value → Traced String)) (printer : Printer) : Traced String := do
  let summary ← printer.summary program settings
  match ← printer.hint program with
  | .string => pure (Text.quote summary)
  | .plain => pure summary
  | hint => container program settings deeper printer hint summary

/-! ## Values that no hook claims -/

/-- Up to `room` parts of a value, with their names. -/
def members (deeper : Value → Traced String) :
    (room : Nat) → List Child → Traced (List String)
  | _, [] => pure []
  | 0, _ :: _ => pure [ellipsis]
  | room + 1, child :: rest => do
    let text ← deeper child.value
    (s!"{child.label} = {text}" :: ·) <$> members deeper room rest

/-- A struct or array with its parts, or the text of a scalar. -/
def unclaimed (deeper : Option (Value → Traced String)) (v : Value) : Traced String := do
  match ← (program.parts v (settings.maxShownChildren + 1)).run with
  | .error fault => pure (errorText fault)
  | .ok children =>
    if children.isEmpty && !program.isAggregate v then shown (program.scalarText v)
    else
      match deeper with
      | none => pure closed
      | some deeper => do
        let items ← members deeper settings.maxShownChildren children
        pure (braced items)

/-- Whether a pointer's target is shown: it has to have parts. -/
def hasParts (target : Value) : Traced Bool := do
  match ← (program.parts target 1).run with
  | .ok children => pure (!children.isEmpty)
  | .error _ => pure false

/-- A pointer: its address and, if that has parts, what it leads to. -/
def pointer (follow : Value → Traced String) (v : Value) : Traced String := do
  match ← (program.readPointer v).run with
  | .error fault => pure (errorText fault)
  | .ok addr =>
    let text := Text.hexAddress addr
    if addr = 0 then pure text
    else do
      match ← (program.dereference v).run with
      | .error _ => pure ("*" ++ text)
      | .ok target =>
        if ← hasParts program target then do
          let followed ← follow target
          pure ("*" ++ text ++ " " ++ followed)
        else pure ("*" ++ text)

/-! ## All values -/

variable (registry : Registry)

/-- What a pointer leads to, on the pointer's level: a value that is not a
pointer. -/
def target (deeper : Option (Value → Traced String)) (v : Value) : Traced String := do
  match ← registry.lookup program settings v with
  | some printer => claimed program settings deeper printer
  | none => unclaimed program settings deeper v

def onLevel (deeper : Option (Value → Traced String)) (v : Value) : Traced String := do
  match ← registry.lookup program settings v with
  | some printer => claimed program settings deeper printer
  | none =>
    if program.isPointer v then pointer program (target program settings registry deeper) v
    else unclaimed program settings deeper v

/-- A value with so many levels below it. -/
def withLevels : (levels : Nat) → Value → Traced String
  | 0 => onLevel program settings registry none
  | levels + 1 => onLevel program settings registry (some (withLevels levels))

/-- A value on one line. -/
def line (v : Value) : Traced String :=
  withLevels program settings registry settings.maxShownDepth v

end

end HeapLens.Display
