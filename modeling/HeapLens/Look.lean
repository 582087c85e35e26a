import HeapLens.Fault
import HeapLens.Trace

/-!
# Looking at a value

A `Look` is a traced computation that may end in a fault. What was read before the
fault stays in the trace.
-/

namespace HeapLens

/-- A traced computation that ends in a result or a fault. -/
abbrev Look := ExceptT Fault Traced

namespace Look

def result (x : Look α) : Except Fault α := x.run.value

def events (x : Look α) : List Event := x.run.events

def reads (x : Look α) : List (Nat × Nat) := x.run.reads

@[simp] theorem result_pure (a : α) : (pure a : Look α).result = .ok a := rfl

@[simp] theorem events_pure (a : α) : (pure a : Look α).events = [] := rfl

@[simp] theorem result_throw (fault : Fault) : (throw fault : Look α).result = .error fault := rfl

@[simp] theorem events_throw (fault : Fault) : (throw fault : Look α).events = [] := rfl

/-- A result that needs no look at memory. -/
@[simp] theorem result_lift (x : Except Fault α) : (liftM x : Look α).result = x := rfl

@[simp] theorem events_lift (x : Except Fault α) : (liftM x : Look α).events = [] := rfl

/-- Results of looks go together like results without a look. -/
theorem result_bind (x : Look α) (f : α → Look β) :
    (x >>= f).result = x.result >>= fun a => (f a).result := by
  simp only [result, ExceptT.run_bind, Traced.value_bind]
  cases x.run.value <;> rfl

/-- A look that came to a result is followed by what is made of it. -/
theorem result_bind_of_ok {x : Look α} {a : α} (h : x.result = .ok a) (f : α → Look β) :
    (x >>= f).result = (f a).result := by
  rw [result_bind, h]
  rfl

/-- A fault is the fault of all that it is a part of. -/
theorem result_bind_of_error {x : Look α} {fault : Fault} (h : x.result = .error fault)
    (f : α → Look β) : (x >>= f).result = .error fault := by
  rw [result_bind, h]
  rfl

/-- What came to a good end came to one at each step. -/
theorem exists_of_result_bind {x : Look α} {f : α → Look β} {b : β}
    (h : (x >>= f).result = .ok b) : ∃ a, x.result = .ok a ∧ (f a).result = .ok b := by
  cases found : x.result with
  | ok a => exact ⟨a, rfl, by rw [← h, result_bind_of_ok found]⟩
  | error fault =>
    rw [result_bind_of_error found] at h
    cases h

/-- What ended in a fault did so at one of its steps. -/
theorem result_bind_eq_error_iff {x : Look α} {f : α → Look β} {fault : Fault} :
    (x >>= f).result = .error fault ↔
      x.result = .error fault ∨ ∃ a, x.result = .ok a ∧ (f a).result = .error fault := by
  cases found : x.result with
  | ok a =>
    rw [result_bind_of_ok found]
    exact ⟨fun h => .inr ⟨a, rfl, h⟩, fun h => by simpa using h⟩
  | error other =>
    rw [result_bind_of_error found]
    simp

@[simp] theorem value_run (x : Look α) : x.run.value = x.result := rfl

@[simp] theorem events_run (x : Look α) : x.run.events = x.events := rfl

/-- A computation that ended in a fault is not followed by anything. -/
theorem events_bind (x : Look α) (f : α → Look β) :
    (x >>= f).events =
      x.events ++ match x.result with
        | .ok a => (f a).events
        | .error _ => [] := by
  simp only [events, result, ExceptT.run_bind, Traced.events_bind]
  cases x.run.value <;> rfl

end Look

end HeapLens
