import HeapLens.Proofs.Trails
import HeapLens.Proofs.TypeGrowth

/-!
# Spellings from the inside out

A pointer or array is spelled as what it is made from and a suffix. So the spelling
of a type is that of what lies at the end of its modifiers, with their suffixes
behind it, the innermost first. The modifiers make a trail (`modifierStep?`), which
need not end: a pointer may point to itself. The spelling looks at a fixed number of
types, and each modifier takes one look:

> `spellWithin_of_trail`: behind a trail of modifiers, what is left of the looks
> goes to where it leads, and the suffixes of the trail follow in reverse.
> `spellNested_eq`: so the recursion ends, whatever the trail is.

Since 20 modifiers leave one look, and 21 none, either the end of the trail is
spelled, by a text of its own (`ownText?`), or what lies behind the 21st modifier is
left out.
-/

namespace HeapLens

/-- What is put behind the spelling of a type to make that of another. -/
inductive Modifier where
  | pointer (reference : Bool)
  | array (length : Nat)
  deriving DecidableEq, Repr

def Modifier.suffix : Modifier → String
  | pointer false => " *"
  | pointer true => " &"
  | array length => "[" ++ toString length ++ "]"

/-- The suffixes of modifiers that are given from the outermost to the innermost. -/
def Modifier.suffixes (modifiers : List Modifier) : String :=
  String.join (modifiers.reverse.map suffix)

/-- The spelling of an entry that is neither a pointer nor an array; those have none
of their own. -/
def TypeEntry.ownText? (e : TypeEntry) : Option String :=
  match e.shape with
  | .unknown => some "<unknown>"
  | .primitive _ => some e.name
  | .typedef _ => some e.name
  | .record record =>
    some ((if record.isUnion then "union " else "struct ") ++
      (if e.name = "" then "\x7b...\x7d" else e.name))
  | .pointer _ _ => none
  | .array _ _ => none

/-- The outermost mark stands last. -/
theorem Modifier.suffixes_cons (modifier : Modifier) (inner : List Modifier) :
    suffixes (modifier :: inner) = suffixes inner ++ modifier.suffix := by
  unfold suffixes
  rw [List.reverse_cons, List.map_append, String.join_append]
  show _ ++ String.join [modifier.suffix] = _
  rw [String.join_cons, String.join_nil, String.append_empty]

namespace TypeTable

/-- From a pointer or array to what it is made from. -/
def modifierStep? (table : TypeTable) (t : TypeId) : Option (Modifier × TypeId) :=
  match table.shape t with
  | .pointer target reference => some (.pointer reference, target)
  | .array elem length => some (.array length, elem)
  | _ => none

/-- One call of the recursion: what a type is made from is spelled through `self`,
one deeper. -/
def spellCall (table : TypeTable) (self : (depth : Nat) → TypeId → String) (depth : Nat)
    (t : TypeId) : String :=
  if 20 < depth then "…"
  else
    match table.modifierStep? t with
    | some (modifier, inner) => self (depth + 1) inner ++ modifier.suffix
    | none => ((table.entry t).ownText?).getD ""

/-- Calls nested into each other up to a number of times; from there on they are
left to `start`. -/
def spellNested (table : TypeTable) (start : (depth : Nat) → TypeId → String) :
    (nesting : Nat) → (depth : Nat) → TypeId → String
  | 0 => start
  | nesting + 1 => table.spellCall (table.spellNested start nesting)

variable {table : TypeTable} {t u : TypeId} {modifiers : List Modifier}

/-- A type that is not made from another has a spelling of its own. -/
theorem exists_ownText? (h : table.modifierStep? t = none) :
    ∃ text, (table.entry t).ownText? = some text ∧
      ∀ looks, table.spellWithin (looks + 1) t = text := by
  unfold modifierStep? at h
  unfold TypeEntry.ownText?
  cases shape : table.shape t with
  | pointer target reference | array elem length =>
    rw [shape] at h
    cases h
  | unknown | primitive traits | typedef target | record record =>
    have entry_shape : (table.entry t).shape = _ := shape
    rw [entry_shape]
    refine ⟨_, rfl, ?_⟩
    intro looks
    simp only [spellWithin, shape, spellRecord]

/-- One step inside is one mark less to write. -/
theorem spellWithin_of_modifierStep? {modifier : Modifier}
    (h : table.modifierStep? t = some (modifier, u)) (looks : Nat) :
    table.spellWithin (looks + 1) t = table.spellWithin looks u ++ modifier.suffix := by
  unfold modifierStep? at h
  rw [spellWithin]
  cases shape : table.shape t with
  | pointer target reference =>
    rw [shape] at h
    cases h
    cases reference <;> rfl
  | array elem length =>
    rw [shape] at h
    cases h
    show table.spellWithin looks u ++ "[" ++ toString length ++ "]" =
      table.spellWithin looks u ++ ("[" ++ toString length ++ "]")
    simp only [String.append_assoc]
  | unknown | primitive traits | typedef target | record record =>
    rw [shape] at h
    cases h

/-- The recursion has come to its end with 22 calls, whatever further ones would
give: each is one deeper, and looks are left at the first 21 depths. -/
theorem spellNested_eq (start : (depth : Nat) → TypeId → String) :
    ∀ (nesting depth : Nat) (t : TypeId), depth ≤ 21 → 22 ≤ nesting + depth →
      table.spellNested start nesting depth t = table.spellWithin (21 - depth) t := by
  intro nesting
  induction nesting with
  | zero =>
    intro depth t shallow enough
    omega
  | succ nesting ih =>
    intro depth t shallow enough
    rw [spellNested, spellCall]
    by_cases deep : 20 < depth
    · obtain rfl : depth = 21 := by omega
      rw [if_pos deep]
      rfl
    · rw [if_neg deep, show 21 - depth = 20 - depth + 1 by omega]
      cases next : table.modifierStep? t with
      | some found =>
        obtain ⟨modifier, inner⟩ := found
        rw [spellWithin_of_modifierStep? next, show 20 - depth = 21 - (depth + 1) by omega,
          ← ih (depth + 1) inner (by omega) (by omega)]
      | none =>
        obtain ⟨text, own, spelled⟩ := exists_ownText? next
        rw [own, spelled]
        rfl

/-- A look for each modifier of a trail, and the others for what comes behind. -/
theorem spellWithin_of_trail (trail : Trail table.modifierStep? t modifiers u) (looks : Nat) :
    table.spellWithin (looks + modifiers.length) t =
      table.spellWithin looks u ++ Modifier.suffixes modifiers := by
  induction trail with
  | here t => exact String.append_empty.symm
  | @step t v u modifier modifiers leads _ ih =>
    rw [List.length_cons, ← Nat.add_assoc, spellWithin_of_modifierStep? leads, ih,
      Modifier.suffixes_cons, String.append_assoc]

/-- Up to 20 modifiers leave a look for the end of their trail. -/
theorem spell_of_fullTrail (full : FullTrail table.modifierStep? t modifiers u)
    (short : modifiers.length ≤ 20) :
    ∃ text, (table.entry u).ownText? = some text ∧
      table.spell t = text ++ Modifier.suffixes modifiers := by
  obtain ⟨text, own, spelled⟩ := exists_ownText? full.ends
  refine ⟨text, own, ?_⟩
  unfold spell spellingDepth
  rw [show 20 + 1 = 20 - modifiers.length + 1 + modifiers.length by omega,
    spellWithin_of_trail full.trail, spelled]

/-- What is behind the 21st modifier is left out. -/
theorem spell_of_trail (trail : Trail table.modifierStep? t modifiers u)
    (long : modifiers.length = 21) : table.spell t = "…" ++ Modifier.suffixes modifiers := by
  have spelled := spellWithin_of_trail trail 0
  rw [Nat.zero_add, long] at spelled
  exact spelled

/-- A trail that goes on behind 20 marks is cut after one more, and there is no name
at its end. -/
theorem exists_spell_of_long
    (long : ∀ modifiers u, FullTrail table.modifierStep? t modifiers u → 20 < modifiers.length) :
    ∃ modifiers u, Trail table.modifierStep? t modifiers u ∧ modifiers.length = 21 ∧
      table.spell t = "…" ++ Modifier.suffixes modifiers := by
  rcases full_or_trail table.modifierStep? 21 t with
    ⟨_, _, full, short⟩ | ⟨modifiers, u, trail, all⟩
  · exact absurd (long _ _ full) (Nat.not_lt_of_le (Nat.le_of_lt_succ short))
  · exact ⟨modifiers, u, trail, all, spell_of_trail trail all⟩

/-- **A type is spelled from the inside out, up to 20 modifiers deep.** The
recursion ends, with no more than 22 calls nested into each other. If no more than
20 pointers and arrays lead to a type that is neither, the spelling is the text of
that type and their suffixes, from the innermost to the outermost; a typedef is such
a type, and so is what the table does not have. If there are more, or if they come
back to where they were, it is the mark of an elision and the suffixes of the 21
outermost. -/
theorem spell_inside_out (table : TypeTable) (t : TypeId) :
    (∀ start nesting, 22 ≤ nesting → table.spellNested start nesting 0 t = table.spell t) ∧
    (∀ modifiers u, FullTrail table.modifierStep? t modifiers u → modifiers.length ≤ 20 →
      ∃ text, (table.entry u).ownText? = some text ∧
        table.spell t = text ++ Modifier.suffixes modifiers) ∧
    ((∀ modifiers u, FullTrail table.modifierStep? t modifiers u → 20 < modifiers.length) →
      ∃ modifiers u, Trail table.modifierStep? t modifiers u ∧ modifiers.length = 21 ∧
        table.spell t = "…" ++ Modifier.suffixes modifiers) ∧
    (∀ before u modifier round, Trail table.modifierStep? t before u →
      Trail table.modifierStep? u (modifier :: round) u →
      ∃ modifiers v, Trail table.modifierStep? t modifiers v ∧ modifiers.length = 21 ∧
        table.spell t = "…" ++ Modifier.suffixes modifiers) ∧
    ∀ u, table.size ≤ u → (table.entry u).ownText? = some "<unknown>" := by
  refine ⟨?_, fun _ _ => spell_of_fullTrail, exists_spell_of_long, ?_, ?_⟩
  · intro start nesting enough
    exact spellNested_eq start nesting 0 t (Nat.zero_le 21) enough
  · intro before u modifier round trail cycle
    refine exists_spell_of_long ?_
    intro modifiers v full
    exact absurd full (not_fullTrail_of_cycle trail cycle)
  · intro u beyond
    rw [entry_of_size_le beyond]
    rfl

/-! ### Pointers to pointers -/

/-- So many pointers, each to the one before it, and the first to the unknown
type. -/
def pointerLine (count : Nat) : TypeTable := ofEntries ((List.range count).map pointerEntry)

theorem modifierStep?_pointerLine {count i : Nat} (h : i < count) :
    (pointerLine count).modifierStep? (i + 1) = some (.pointer false, i) := by
  have entry : (pointerLine count).entry (i + 1) = pointerEntry i :=
    entry_ofEntries_range h
  unfold modifierStep? shape
  rw [entry]
  rfl

/-- The trail from one of them is as long as its place says. -/
theorem fullTrail_pointerLine {count i : Nat} (h : i ≤ count) :
    FullTrail (pointerLine count).modifierStep? i (List.replicate i (.pointer false)) 0 := by
  induction i with
  | zero =>
    refine ⟨.here 0, ?_⟩
    have unknown : (pointerLine count).shape 0 = .unknown := shape_unknownId_run _
    unfold modifierStep?
    rw [unknown]
  | succ i ih =>
    have inner := ih (Nat.le_of_succ_le h)
    exact ⟨.step (modifierStep?_pointerLine h) inner.trail, inner.ends⟩

/-- Of 20 pointers in a line all are spelled, and what they lead to; of 22 the
outermost 21; and so many of a pointer to itself, where the recursion ends as
well. -/
theorem spell_inside_out_pointers :
    (pointerLine 20).spell 20 =
        "<unknown>" ++ Modifier.suffixes (List.replicate 20 (.pointer false)) ∧
      (pointerLine 22).spell 22 = "…" ++ Modifier.suffixes (List.replicate 21 (.pointer false)) ∧
      (∃ modifiers, modifiers.length = 21 ∧
        (ofEntries [pointerEntry 1]).spell 1 = "…" ++ Modifier.suffixes modifiers) ∧
      (ofEntries [pointerEntry 1]).spellNested (fun _ _ => "") 22 0 1 =
        (ofEntries [pointerEntry 1]).spell 1 := by
  refine ⟨?_, ?_, ?_, ?_⟩
  · have full := fullTrail_pointerLine (Nat.le_refl 20)
    obtain ⟨text, own, spelled⟩ :=
      (spell_inside_out (pointerLine 20) 20).2.1 _ _ full (Nat.le_of_eq List.length_replicate)
    cases own
    exact spelled
  · have full := fullTrail_pointerLine (Nat.le_refl 22)
    obtain ⟨modifiers, u, trail, long, spelled⟩ :=
      (spell_inside_out (pointerLine 22) 22).2.2.1 (by
        intro modifiers u other
        rw [(other.unique full).1, List.length_replicate]
        omega)
    obtain ⟨rest, same, -⟩ := full.split trail
    have outermost : modifiers = List.replicate 21 (.pointer false) := by
      refine List.eq_replicate_iff.mpr ⟨long, ?_⟩
      intro modifier among
      have line : modifier ∈ List.replicate 22 (.pointer false) := by
        rw [same]
        exact List.mem_append_left rest among
      exact List.eq_of_mem_replicate line
    rw [spelled, outermost]
  · obtain ⟨modifiers, _, _, long, spelled⟩ :=
      (spell_inside_out (ofEntries [pointerEntry 1]) 1).2.2.2.1 [] 1 (.pointer false) [] (.here 1)
        (.step rfl (.here 1))
    exact ⟨modifiers, long, spelled⟩
  · exact (spell_inside_out (ofEntries [pointerEntry 1]) 1).1 _ 22 (Nat.le_refl 22)

/-- The suffixes of an array of pointers, and of a reference to it, in the order in
which they are written. -/
example :
    (ofEntries [primitiveEntry "int" 4 {}, pointerEntry 1, ⟨"", 24, 8, .array 2 3⟩,
      ⟨"", 8, 8, .pointer 3 true⟩]).spell 4 = "int *[3] &" := by
  decide

end TypeTable

end HeapLens
