/-!
# Trails

Types lead to types: a typedef to the one that it is a name for, a pointer to what
it points to. Such a step is a function that has no answer where the way ends, and
may leave a mark where it goes on. What is done along the way, up to a fixed number
of steps, is to be compared with the way itself (`Trail`), which has no such number:

> `full_or_trail`: either the way ends within `n` steps (`FullTrail`), or it goes on
> for `n` steps.

There is one way from each place, so a trail is the beginning of the full one, if
that exists (`FullTrail.split`). A way that comes back to where it was does not end
(`not_fullTrail_of_cycle`).
-/

namespace HeapLens

variable {α β : Type} {step? : α → Option (β × α)} {a b c : α} {marks : List β}

/-- The steps lead from one place to the other and leave these marks on the way,
first to last. -/
inductive Trail (step? : α → Option (β × α)) : (start : α) → List β → (stop : α) → Prop where
  | here (a : α) : Trail step? a [] a
  | step {a b c : α} {mark : β} {marks : List β} (leads : step? a = some (mark, b))
      (rest : Trail step? b marks c) : Trail step? a (mark :: marks) c

/-- A trail to a place from which no step leads on. -/
structure FullTrail (step? : α → Option (β × α)) (start : α) (marks : List β) (stop : α) :
    Prop where
  trail : Trail step? start marks stop
  ends : step? stop = none

/-- The way ends within `n` steps, or there are `n` of them. -/
theorem full_or_trail (step? : α → Option (β × α)) (n : Nat) (a : α) :
    (∃ marks b, FullTrail step? a marks b ∧ marks.length < n) ∨
      ∃ marks b, Trail step? a marks b ∧ marks.length = n := by
  induction n generalizing a with
  | zero => exact .inr ⟨[], a, .here a, rfl⟩
  | succ n ih =>
    cases next : step? a with
    | none => exact .inl ⟨[], a, ⟨.here a, next⟩, Nat.succ_pos n⟩
    | some found =>
      obtain ⟨mark, b⟩ := found
      rcases ih b with ⟨marks, c, full, short⟩ | ⟨marks, c, trail, long⟩
      · exact .inl ⟨mark :: marks, c, ⟨.step next full.trail, full.ends⟩, Nat.succ_lt_succ short⟩
      · exact .inr ⟨mark :: marks, c, .step next trail, congrArg Nat.succ long⟩

/-- A trail is the beginning of the full one. -/
theorem FullTrail.split {first : List β} (full : FullTrail step? a marks c)
    (trail : Trail step? a first b) : ∃ rest, marks = first ++ rest ∧ FullTrail step? b rest c := by
  induction trail generalizing marks with
  | here a => exact ⟨marks, rfl, full⟩
  | @step a b' b mark first leads _ ih =>
    obtain ⟨trail, ends⟩ := full
    cases trail with
    | here =>
      rw [ends] at leads
      cases leads
    | step leads' rest =>
      rw [leads] at leads'
      cases leads'
      obtain ⟨rest, same, behind⟩ := ih ⟨rest, ends⟩
      exact ⟨rest, congrArg (mark :: ·) same, behind⟩

/-- There is only one way. -/
theorem FullTrail.unique {marks' : List β} {c' : α} (full : FullTrail step? a marks c)
    (full' : FullTrail step? a marks' c') : marks = marks' ∧ c = c' := by
  obtain ⟨rest, rfl, ⟨trail, -⟩⟩ := full'.split full.trail
  cases trail with
  | here => exact ⟨(List.append_nil marks).symm, rfl⟩
  | step leads _ =>
    rw [full.ends] at leads
    cases leads

/-- Behind a cycle there is no end. -/
theorem not_fullTrail_of_cycle {first round : List β} {mark : β} (trail : Trail step? a first b)
    (cycle : Trail step? b (mark :: round) b) : ¬ FullTrail step? a marks c := by
  intro full
  obtain ⟨rest, -, behind⟩ := full.split trail
  obtain ⟨again, same, behind'⟩ := behind.split cycle
  -- What is left after a round is what there was before it.
  have shorter : rest.length = (mark :: round).length + again.length := by
    rw [same, List.length_append]
  rw [(behind.unique behind').1, List.length_cons] at shorter
  omega

end HeapLens
