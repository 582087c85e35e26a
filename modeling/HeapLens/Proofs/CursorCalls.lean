import HeapLens.Proofs.CursorStep
import Mathlib.Data.List.Basic

/-!
# Cursors in a program that changes

Between two calls on a cursor anything may happen to the types and the memory.
`calls` is what the calls on one cursor answer when each of them finds a program of
its own; nothing relates one program to the next. This module has what lists and
dictionaries share:

> `EndsAt`: from some call on there is no child, and behind that call nothing
> happens any more.
> `calls_congr`: programs that a cursor cannot tell apart give the same calls.
-/

namespace HeapLens

namespace Cursor

/-- What the calls on a cursor answer, when each of them finds a program of its
own. -/
def calls (settings : Settings) : Cursor → List Program → List (Traced (Option Child))
  | _, [] => []
  | cursor, program :: later =>
    let answer := cursor.next program settings
    (Prod.fst <$> answer) :: calls settings answer.value.2 later

/-- From call `count` on there is no child, and the calls behind it neither read nor
leave a note. -/
def EndsAt (count : Nat) (calls : List (Traced (Option Child))) : Prop :=
  ∀ (j : Nat) (call : Traced (Option Child)), count ≤ j → calls[j]? = some call →
    call.value = none ∧ (count < j → call.events = [])

variable {settings : Settings}

/-! ## The end -/

theorem endsAt_nil (count : Nat) : EndsAt count [] := by
  intro j call _ hcall
  cases hcall

/-- One more call in front moves the end by one. -/
theorem EndsAt.cons {count : Nat} {calls : List (Traced (Option Child))} (h : EndsAt count calls)
    (call : Traced (Option Child)) : EndsAt (count + 1) (call :: calls) := by
  intro j later hle hlater
  cases j with
  | zero => omega
  | succ j =>
    obtain ⟨hnone, hquiet⟩ := h j later (by omega) hlater
    exact ⟨hnone, fun hlt => hquiet (by omega)⟩

/-- A first call without a child, and then calls that do nothing. -/
theorem endsAt_zero {call : Traced (Option Child)} {calls : List (Traced (Option Child))}
    (hnone : call.value = none) (hquiet : ∀ later ∈ calls, later = ⟨none, []⟩) :
    EndsAt 0 (call :: calls) := by
  intro j later _ hlater
  cases j with
  | zero =>
    have hsame : call = later := Option.some.inj hlater
    subst hsame
    exact ⟨hnone, fun hlt => absurd hlt (Nat.lt_irrefl 0)⟩
  | succ j =>
    rw [hquiet later (List.mem_of_getElem? hlater)]
    exact ⟨rfl, fun _ => rfl⟩

/-- The events of the first call do not matter for where the calls end. -/
theorem EndsAt.congr {count : Nat} {call call' : Traced (Option Child)}
    {calls : List (Traced (Option Child))} (h : EndsAt count (call :: calls))
    (same : call'.value = call.value) : EndsAt count (call' :: calls) := by
  intro j later hle hlater
  cases j with
  | zero =>
    have hfirst := h 0 call hle rfl
    have hsame : call' = later := Option.some.inj hlater
    subst hsame
    exact ⟨same.trans hfirst.1, fun hlt => absurd hlt (Nat.not_lt_zero count)⟩
  | succ j => exact h (j + 1) later hle hlater

/-- A cursor that has ended stays so: its calls do nothing, in whatever program. -/
theorem calls_of_ended {cursor : Cursor}
    (h : ∀ program, cursor.next program settings = ⟨(none, cursor), []⟩) :
    ∀ programs : List Program,
      cursor.calls settings programs = List.replicate programs.length ⟨none, []⟩ := by
  intro programs
  induction programs with
  | nil => rfl
  | cons program later ih =>
    rw [calls, h program]
    show (⟨none, []⟩ : Traced (Option Child)) :: calls settings cursor later = _
    rw [ih]
    rfl

/-- A list's cursor that has ended stays so, whatever programs it finds. -/
theorem calls_list_finished (programs : List Program) :
    (list .finished).calls settings programs = List.replicate programs.length ⟨none, []⟩ :=
  calls_of_ended (fun _ => rfl) programs

theorem calls_dict_finished (programs : List Program) :
    (dict .finished).calls settings programs = List.replicate programs.length ⟨none, []⟩ :=
  calls_of_ended (fun _ => rfl) programs

/-- A cursor whose next answer is none and the end. -/
theorem endsAt_of_finished {cursor after : Cursor} {program : Program}
    (answer : (cursor.next program settings).value = (none, after))
    (quiet : ∀ programs : List Program,
      after.calls settings programs = List.replicate programs.length ⟨none, []⟩)
    (later : List Program) : EndsAt 0 (cursor.calls settings (program :: later)) := by
  refine endsAt_zero ?_ ?_
  · rw [Traced.value_map, answer]
  · intro call hcall
    rw [answer, quiet] at hcall
    exact List.eq_of_mem_replicate hcall

/-- Two cursors whose next answers agree differ at most in the events of that
call. -/
theorem calls_of_value_eq {cursor cursor' : Cursor} {first : Program}
    (same : (cursor.next first settings).value = (cursor'.next first settings).value)
    (later : List Program) :
    ∃ call call' rest, call.value = call'.value ∧
      cursor.calls settings (first :: later) = call :: rest ∧
      cursor'.calls settings (first :: later) = call' :: rest := by
  refine ⟨Prod.fst <$> cursor.next first settings, Prod.fst <$> cursor'.next first settings,
    calls settings (cursor.next first settings).value.2 later, ?_, ?_, ?_⟩
  · rw [Traced.value_map, Traced.value_map, same]
  · rw [calls]
  · rw [calls, same]

/-! ## What the calls depend on -/

/-- Two runs of a cursor agree if each of its calls does, as long as the cursor
stays in `Inv`. -/
theorem calls_congr {Inv : Cursor → Prop} {Same : Program → Program → Prop}
    (stays : ∀ {program : Program} {cursor : Cursor}, Inv cursor →
      Inv (cursor.next program settings).value.2)
    (agree : ∀ {program program' : Program} {cursor : Cursor}, Same program program' →
      Inv cursor → cursor.next program settings = cursor.next program' settings)
    {programs programs' : List Program} (same : List.Forall₂ Same programs programs') :
    ∀ cursor, Inv cursor → cursor.calls settings programs = cursor.calls settings programs' := by
  induction same with
  | nil =>
    intro cursor _
    rfl
  | cons hsame _ ih =>
    intro cursor hinv
    rw [calls, calls, ← agree hsame hinv]
    show _ :: _ = _ :: _
    rw [ih _ (stays hinv)]

end Cursor

end HeapLens
