import HeapLens.Types.Basic

/-!
# How types are spelled

A type is spelled as in a debugger for C: `struct Foo`, `Foo_t *`, `int[4]`. The
spelling goes from a pointer or array to what it is made from, through a fixed
number of steps, so that a pointer to itself has a spelling too; typedefs go by
their own names.
-/

namespace HeapLens.TypeTable

/-- The spelling follows so many pointers and arrays; what lies deeper is left
out. -/
def spellingDepth : Nat := 20

/-- Stands for what is left out. -/
def elision : String := "…"

/-- The spelling of a struct or union. -/
def spellRecord (name : String) (record : Record) : String :=
  (if record.isUnion then "union " else "struct ") ++
    (if name = "" then "\x7b...\x7d" else name)

/-- The spelling of `t` that looks at no more than `looks` types. -/
def spellWithin (table : TypeTable) : (looks : Nat) → TypeId → String
  | 0, _ => elision
  | looks + 1, t =>
    match table.shape t with
    | .unknown => "<unknown>"
    | .primitive _ => (table.entry t).name
    | .typedef _ => (table.entry t).name
    | .record record => spellRecord (table.entry t).name record
    | .pointer target reference =>
      table.spellWithin looks target ++ (if reference then " &" else " *")
    | .array elem length => s!"{table.spellWithin looks elem}[{length}]"

def spell (table : TypeTable) (t : TypeId) : String := table.spellWithin (spellingDepth + 1) t

/-! ## The spelling by shape -/

section

variable {table : TypeTable} {t : TypeId}

/-- The unknown type has no name, and is spelled by a text that is no name. -/
theorem spell_of_unknown (h : table.shape t = .unknown) : table.spell t = "<unknown>" := by
  rw [spell, spellWithin, h]

theorem spell_of_primitive {traits : Traits} (h : table.shape t = .primitive traits) :
    table.spell t = (table.entry t).name := by
  rw [spell, spellWithin, h]

/-- A typedef goes by its own name, and not by what it is a name for. -/
theorem spell_of_typedef {target : TypeId} (h : table.shape t = .typedef target) :
    table.spell t = (table.entry t).name := by
  rw [spell, spellWithin, h]

/-- A struct or union has a word in front of its name. -/
theorem spell_of_record {record : Record} (h : table.shape t = .record record) :
    table.spell t = spellRecord (table.entry t).name record := by
  rw [spell, spellWithin, h]

/-- A pointer has a mark behind the spelling of its target, which is one step
further inside. -/
theorem spell_of_pointer {target : TypeId} {reference : Bool}
    (h : table.shape t = .pointer target reference) :
    table.spell t =
      table.spellWithin spellingDepth target ++ (if reference then " &" else " *") := by
  rw [spell, spellWithin, h]

/-- An array has its length behind the spelling of its elements. -/
theorem spell_of_array {elem : TypeId} {length : Nat} (h : table.shape t = .array elem length) :
    table.spell t = s!"{table.spellWithin spellingDepth elem}[{length}]" := by
  rw [spell, spellWithin, h]

end

end HeapLens.TypeTable
