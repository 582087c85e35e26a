/-!
# The log: the last hundred lines

The log tells a developer why something could not be shown. It keeps the most recent
lines only, so a long session cannot fill memory with complaints. `lines_addAll`
says which lines these are.
-/

namespace HeapLens

/-- The most recent lines, oldest first. -/
structure Log where
  lines : List String := []
  deriving DecidableEq, Repr

namespace Log

def capacity : Nat := 100

def empty : Log := {}

/-- The last `capacity` of `lines`. -/
def recent (lines : List String) : List String := lines.drop (lines.length - capacity)

/-- Adds a line; when there are too many, the oldest is dropped. -/
def add (log : Log) (line : String) : Log := ⟨recent (log.lines ++ [line])⟩

/-- Adds lines, the first of them first. -/
def addAll (log : Log) (lines : List String) : Log := lines.foldl add log

/-- What was dropped before does not matter for what is kept. -/
theorem recent_recent_append (old new : List String) :
    recent (recent old ++ new) = recent (old ++ new) := by
  simp only [recent, List.length_append, List.length_drop]
  by_cases h : capacity ≤ old.length
  · rw [List.drop_append, List.drop_append, List.drop_drop, List.length_drop]
    congr 2 <;> omega
  · rw [Nat.sub_eq_zero_of_le (Nat.le_of_not_le h)]
    simp

/-- After lines have been added to an empty log it holds the last hundred of
them. -/
theorem lines_addAll (lines : List String) : (empty.addAll lines).lines = recent lines := by
  have step : ∀ (rest done : List String) (log : Log), log.lines = recent done →
      (log.addAll rest).lines = recent (done ++ rest) := by
    intro rest
    induction rest with
    | nil => intro done log h; simpa [addAll] using h
    | cons line rest ih =>
      intro done log h
      have next := ih (done ++ [line]) (log.add line) (by rw [add, h, recent_recent_append])
      simpa [addAll] using next
  simpa using step lines [] empty rfl

end Log

end HeapLens
