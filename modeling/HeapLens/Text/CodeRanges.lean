/-!
# Ranges of code points

A property of characters is kept as the list of the ranges in which it holds. The
ranges ascend, which lets a search end early; `inRanges_iff` says that it still
finds every member.
-/

namespace HeapLens.Text

/-- Whether `c` lies in one of `ranges`, each given by its first and its last
member. The search ends at the first range that begins above `c`. -/
def inRanges (c : Nat) : List (Nat × Nat) → Bool
  | [] => false
  | (first, last) :: rest => decide (first ≤ c) && (decide (c ≤ last) || inRanges c rest)

/-- No range is empty, and each lies above those before it and not below `low`. -/
def Ascending (low : Nat) : List (Nat × Nat) → Prop
  | [] => True
  | (first, last) :: rest => low ≤ first ∧ first ≤ last ∧ Ascending (last + 1) rest

/-- Whether ranges ascend can be computed. -/
def decideAscending (low : Nat) : (ranges : List (Nat × Nat)) → Decidable (Ascending low ranges)
  | [] => .isTrue trivial
  | (first, last) :: rest =>
    have := decideAscending (last + 1) rest
    inferInstanceAs (Decidable (low ≤ first ∧ first ≤ last ∧ Ascending (last + 1) rest))

instance (low : Nat) (ranges : List (Nat × Nat)) : Decidable (Ascending low ranges) :=
  decideAscending low ranges

/-- All members of ascending ranges are at or above the bound. -/
theorem Ascending.le {low : Nat} {ranges : List (Nat × Nat)} (h : Ascending low ranges)
    {r : Nat × Nat} (hr : r ∈ ranges) : low ≤ r.1 := by
  induction ranges generalizing low with
  | nil => cases hr
  | cons q rest ih =>
    obtain ⟨above, order, tail⟩ := h
    rcases List.mem_cons.1 hr with rfl | later
    · exact above
    · have := ih tail later
      omega

/-- In ascending ranges the search finds exactly the members. -/
theorem inRanges_iff {low c : Nat} {ranges : List (Nat × Nat)} (h : Ascending low ranges) :
    inRanges c ranges = true ↔ ∃ r ∈ ranges, r.1 ≤ c ∧ c ≤ r.2 := by
  induction ranges generalizing low with
  | nil => simp [inRanges]
  | cons q rest ih =>
    obtain ⟨first, last⟩ := q
    obtain ⟨_, order, tail⟩ := h
    simp only [inRanges, Bool.and_eq_true, Bool.or_eq_true, decide_eq_true_eq, ih tail,
      List.mem_cons, exists_eq_or_imp]
    constructor
    · rintro ⟨from_first, to_last | later⟩
      · exact Or.inl ⟨from_first, to_last⟩
      · exact Or.inr later
    · rintro (here | ⟨r, hr, lower, upper⟩)
      · exact ⟨here.1, Or.inl here.2⟩
      · have := tail.le hr
        exact ⟨by omega, Or.inr ⟨r, hr, lower, upper⟩⟩

end HeapLens.Text
