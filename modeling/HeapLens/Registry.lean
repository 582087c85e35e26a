import HeapLens.Container.Recognition
import HeapLens.Container.Printer

/-!
# Hooks: who shows a value

Hooks are asked in the order in which they were registered, and the first one that
claims a value shows it. A name is registered once; a second hook of the same name
is turned away. `lookup_append` says that later hooks do not disturb what an earlier
one claims.
-/

namespace HeapLens

/-- A named hook, which claims a value with a printer or declines it. -/
structure Hook where
  name : String
  claim : Program → Settings → Value → Traced (Option Printer)

namespace Hook

/-- The hook for the runtime's containers, recognised by their names. It reads
nothing. -/
def runtime : Hook where
  name := "lang_rt"
  claim program settings v :=
    pure ((Container.ofValue? program settings v).map (Printer.ofContainer v))

/-- A hook that shows values as one and the same container, given by its tags: all
values, or those of the type that is called `only`. -/
def always (name : String) (container : Option Container) (only : Option String) : Hook where
  name
  claim program _ v :=
    pure <|
      if only.all fun wanted => (program.typeName v).toOption == some wanted then
        container.map (Printer.ofContainer v)
      else none

/-- The first claim that one of `hooks` makes. Those behind it are not asked. -/
def firstClaim (program : Program) (settings : Settings) (v : Value) :
    List Hook → Traced (Option Printer)
  | [] => pure none
  | hook :: rest => do
    match ← hook.claim program settings v with
    | some printer => pure (some printer)
    | none => firstClaim program settings v rest

end Hook

/-- Hooks in the order of their registration. -/
structure Registry where
  hooks : List Hook := []

namespace Registry

def empty : Registry := {}

def isRegistered (registry : Registry) (name : String) : Bool :=
  registry.hooks.any fun hook => hook.name == name

/-- The registry with one more hook, unless there is one of its name. -/
def register (registry : Registry) (hook : Hook) : Registry :=
  if registry.isRegistered hook.name then registry else ⟨registry.hooks ++ [hook]⟩

/-- The printer of the first hook that claims the value. -/
def lookup (registry : Registry) (program : Program) (settings : Settings) (v : Value) :
    Traced (Option Printer) :=
  Hook.firstClaim program settings v registry.hooks

/-- A registered name stays registered, and the new hook's name is registered in any
case. -/
theorem isRegistered_register (registry : Registry) (hook : Hook) (name : String) :
    (registry.register hook).isRegistered name =
      (registry.isRegistered name || hook.name == name) := by
  unfold register
  split
  · rename_i there
    cases same : hook.name == name with
    | false => simp
    | true => rw [← eq_of_beq same, there]; rfl
  · simp [isRegistered]

/-- A claimed value stays with its hook when hooks are added behind. -/
theorem lookup_append {hooks more : List Hook} {program : Program} {settings : Settings} {v : Value}
    {printer : Printer} (h : (Hook.firstClaim program settings v hooks).value = some printer) :
    Hook.firstClaim program settings v (hooks ++ more) =
      Hook.firstClaim program settings v hooks := by
  induction hooks with
  | nil => simp [Hook.firstClaim] at h
  | cons hook rest ih =>
    simp only [List.cons_append, Hook.firstClaim]
    cases claimed : (hook.claim program settings v).value with
    | some _ => apply Traced.ext <;> simp [claimed]
    | none =>
      simp only [Hook.firstClaim, Traced.value_bind, claimed] at h
      rw [ih h]

end Registry

end HeapLens
