import HeapLens.Value.Basic
import HeapLens.Decimal.Shortest

/-!
# Reading scalars

A scalar is read as the unsigned number in its bytes; integers, addresses and texts
are made from it.
-/

namespace HeapLens

open Text (hexAddress hexByte)

/-- The number that `x` stands for when `size` bytes are read in two's
complement. -/
def twosComplement (size x : Nat) : Int := (x : Int).bmod (Nat.pow 256 size)

/-- A number of at most eight bytes is below half of what they can hold. -/
theorem twosComplement_lt {size : Nat} (h : size ≤ 8) (x : Nat) :
    2 * twosComplement size x < addressLimit := by
  have below : twosComplement size x < ((Nat.pow 256 size : Nat) + 1) / 2 :=
    Int.bmod_lt (Nat.pow_pos (by omega))
  have fits : Nat.pow 256 size ≤ Nat.pow 256 8 := Nat.pow_le_pow_right (by omega) h
  have whole : Nat.pow 256 8 = addressLimit := rfl
  omega

namespace Program

/-- The unsigned number in the lowest `size` bytes of a value; held values have
eight. -/
def readScalar (program : Program) (v : Value) (size : Nat) : Look Nat :=
  match v.place with
  | .stored addr => program.memory.readUInt addr size
  | .held bits => pure (bits % Nat.pow 256 (min size 8))

/-- A value as an address: a pointer, or an unsigned integer of the size of one. -/
def readPointer (program : Program) (v : Value) : Look Nat :=
  let type := program.resolve v
  match type.shape with
  | .pointer _ _ => program.readScalar v type.size
  | .primitive traits =>
    if !traits.float && !traits.signed && type.size == TypeTable.pointerSize then
      program.readScalar v type.size
    else throw (.notAddress (program.spell v))
  | _ => throw (.notAddress (program.spell v))

/-- What can be read as an address is a pointer or a number, not an array. -/
theorem shape_ne_array_of_readPointer {program : Program} {v : Value} {addr : Nat}
    (read : (program.readPointer v).result = .ok addr) (elem : TypeId) (length : Nat) :
    program.shape v ≠ .array elem length := by
  intro shape
  have resolved : (program.resolve v).shape = .array elem length := shape
  unfold readPointer at read
  dsimp only at read
  rw [resolved] at read
  cases read

/-- A value as an integer of eight bytes, which unsigned ones wrap around to. -/
def readInt (program : Program) (v : Value) : Look Int :=
  let type := program.resolve v
  match type.shape with
  | .primitive traits =>
    if traits.float then throw (.notInteger (program.spell v))
    else do
      let x ← program.readScalar v type.size
      pure (twosComplement (if traits.signed then min type.size 8 else 8) x)
  | .pointer _ _ => do
    let x ← program.readScalar v type.size
    pure (twosComplement 8 x)
  | _ => throw (.notInteger (program.spell v))

/-- What is read as an integer fits into eight bytes, with a sign. -/
theorem readInt_lt {program : Program} {v : Value} {x : Int}
    (h : (program.readInt v).result = .ok x) : 2 * x < addressLimit := by
  unfold readInt at h
  dsimp only at h
  split at h
  · split at h
    · cases h
    · obtain ⟨y, -, h⟩ := Look.exists_of_result_bind h
      rw [← Except.ok.inj h]
      exact twosComplement_lt (by split <;> omega) y
  · obtain ⟨y, -, h⟩ := Look.exists_of_result_bind h
    rw [← Except.ok.inj h]
    exact twosComplement_lt (Nat.le_refl 8) y
  · cases h

/-- To read an integer in memory is to read some bytes from its address on. -/
theorem exists_read_of_readInt {program : Program} {addr : Nat} {t : TypeId} {x : Int}
    (h : (program.readInt ⟨.stored addr, t⟩).result = .ok x) :
    ∃ size bytes, 1 ≤ size ∧ program.memory.read addr size = .ok bytes := by
  have of_readScalar : ∀ {size y : Nat},
      (program.readScalar ⟨.stored addr, t⟩ size).result = .ok y →
      ∃ size bytes, 1 ≤ size ∧ program.memory.read addr size = .ok bytes := by
    intro size y h
    obtain ⟨fits, bytes, hbytes, -⟩ := Memory.readUInt_eq_ok_iff.mp h
    exact ⟨size, bytes, fits.1, hbytes⟩
  unfold readInt at h
  dsimp only at h
  split at h
  · split at h
    · cases h
    · obtain ⟨y, hy, -⟩ := Look.exists_of_result_bind h
      exact of_readScalar hy
  · obtain ⟨y, hy, -⟩ := Look.exists_of_result_bind h
    exact of_readScalar hy
  · cases h

/-- `len` bytes from where a pointer points. From a null pointer nothing but no
bytes can be read. -/
def readBytes (program : Program) (v : Value) (len : Nat) : Look (List UInt8) := do
  let addr ← program.readPointer v
  if addr = 0 ∧ len ≠ 0 then throw .nullDereference
  else program.memory.readBytes addr len

/-! ## Texts of scalars -/

/-- A character of one byte in quotes; one that is not printed as itself is given by
its number. -/
def charText (b : UInt8) : String :=
  if 0x20 ≤ b ∧ b ≤ 0x7E then "'" ++ String.singleton (Char.ofNat b.toNat) ++ "'"
  else "'\\x" ++ hexByte b ++ "'"

/-- The text of a primitive value with the number `x` in its `size` bytes. -/
def primitiveText (traits : Traits) (size x : Nat) : Except Fault String :=
  if traits.bool then .ok (if x = 0 then "false" else "true")
  else if traits.float then
    if size = 4 then .ok (BinaryFormat.single.decode x).text
    else if size = 8 then .ok (BinaryFormat.double.decode x).text
    else .error (.floatSize size)
  else if traits.char && size == 1 then .ok (charText (UInt8.ofNat x))
  else if traits.signed then .ok (toString (twosComplement (min size 8) x))
  else .ok (toString x)

/-- The text of a value that has a single one. -/
def scalarText (program : Program) (v : Value) : Look String :=
  let type := program.resolve v
  match type.shape with
  | .primitive traits => do
    let x ← program.readScalar v type.size
    liftM (primitiveText traits type.size x)
  | .pointer _ _ => do
    let x ← program.readScalar v type.size
    pure (hexAddress x)
  | _ => throw (.notScalar (program.spell v))

end Program

end HeapLens
