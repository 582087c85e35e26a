import HeapLens.Types.Spelling

/-!
# Layout of structs and unions

Members are laid out as a C compiler does: each at the next multiple of its
alignment, or at the start of a union, and the whole is padded to a multiple of the
largest alignment. `roundUp` is the least multiple of the alignment (`le_roundUp`,
`dvd_roundUp`, `roundUp_le`).
-/

namespace HeapLens

/-- A member of a struct or union before it has a place. -/
structure Member where
  name : String
  type : TypeId
  deriving DecidableEq, Repr

/-! ## Rounding -/

/-- The least multiple of `align` that is at or above `x`; an alignment of zero
counts as one. -/
def roundUp (x align : Nat) : Nat := (x + (max align 1 - 1)) / max align 1 * max align 1

theorem dvd_roundUp (x align : Nat) : max align 1 ∣ roundUp x align := Nat.dvd_mul_left _ _

/-- Rounding up does not go below the number that is rounded. -/
theorem le_roundUp (x align : Nat) : x ≤ roundUp x align := by
  have positive : 0 < max align 1 := by omega
  have whole := Nat.div_add_mod (x + (max align 1 - 1)) (max align 1)
  have rest := Nat.mod_lt (x + (max align 1 - 1)) positive
  rw [Nat.mul_comm] at whole
  unfold roundUp
  omega

/-- Of the aligned numbers that are not below `x` it is the least. -/
theorem roundUp_le {x align y : Nat} (multiple : max align 1 ∣ y) (above : x ≤ y) :
    roundUp x align ≤ y := by
  obtain ⟨k, rfl⟩ := multiple
  have positive : 0 < max align 1 := by omega
  unfold roundUp
  rw [Nat.mul_comm]
  refine Nat.mul_le_mul_left _ (Nat.le_of_lt_succ ((Nat.div_lt_iff_lt_mul positive).2 ?_))
  rw [Nat.succ_mul, Nat.mul_comm k]
  omega

/-! ## Placing members -/

namespace TypeTable

/-- The fields made of `members`, when what comes before them ends at `stop`. -/
def placeFrom (table : TypeTable) (isUnion : Bool) : (stop : Nat) → List Member → List Field
  | _, [] => []
  | stop, m :: rest =>
    let offset := if isUnion then 0 else roundUp stop (table.alignOf m.type)
    ⟨m.name, offset, m.type⟩ :: table.placeFrom isUnion (offset + table.sizeOf m.type) rest

/-- The first offset behind all of `fields`. -/
def extent (table : TypeTable) (fields : List Field) : Nat :=
  fields.foldr (fun f stop => max (f.offset + table.sizeOf f.type) stop) 0

/-- The largest alignment of `members`, at least one. -/
def alignment (table : TypeTable) (members : List Member) : Nat :=
  members.foldr (fun m align => max (table.alignOf m.type) align) 1

/-- The entry of the struct or union made of `members`. -/
def layOut (table : TypeTable) (name : String) (isUnion : Bool) (members : List Member) :
    TypeEntry :=
  let fields := table.placeFrom isUnion 0 members
  let align := table.alignment members
  ⟨name, roundUp (table.extent fields) align, align, .record { fields, isUnion }⟩

/-- Completes the struct that was declared at `t`. -/
def complete (table : TypeTable) (t : TypeId) (name : String) (isUnion : Bool)
    (members : List Member) : Except Fault TypeTable :=
  match table.shape t with
  | .record { isDeclaration := true, .. } =>
    .ok ⟨table.entries.setIfInBounds t (table.layOut name isUnion members)⟩
  | _ => .error (.notDeclaration (table.spell t))

/-- Placing keeps names, types and order. -/
theorem map_placeFrom (table : TypeTable) (isUnion : Bool) (stop : Nat) (members : List Member) :
    (table.placeFrom isUnion stop members).map (fun f => (f.name, f.type)) =
      members.map fun m => (m.name, m.type) := by
  induction members generalizing stop with
  | nil => rfl
  | cons m rest ih => simp [placeFrom, ih]

end TypeTable

end HeapLens
