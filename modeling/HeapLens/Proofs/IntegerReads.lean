import HeapLens.Memory.Snapshot
import HeapLens.Value.Scalar
import Mathlib

/-!
# Integers are read and printed as the same number

An integer is read from its bytes as an unsigned number `x`, of which `readInt` and
`scalarText` make a signed one, each by flags of its own. The number that is meant
is `Traits.number`:

> `twosComplement_of_lt`: below half of what the bytes can hold `x` stands for
> itself, from there on for `x` less all that they can hold.

What is read has eight bytes and a sign, hence it misses the unsigned numbers from
`2 ^ 63` on, and only those. What is printed misses none.
-/

namespace HeapLens

/-- The number that `size` bytes with the unsigned number `x` stand for. -/
def Traits.number (traits : Traits) (size x : Nat) : Int :=
  if traits.signed = false ∨ x < 2 ^ (8 * size - 1) then x else x - 2 ^ (8 * size)

/-- The lowest `size` bytes of a value, in memory or given with it, are the unsigned
number `x`. -/
inductive Program.Spells (program : Program) (v : Value) (size x : Nat) : Prop where
  | stored {addr : Nat} {bytes : List UInt8} (place : v.place = .stored addr)
      (read : program.memory.read addr size = .ok bytes)
      (number : LittleEndian.ofBytes bytes = x)
  | held {bits : Nat} (place : v.place = .held bits) (number : bits % 256 ^ size = x)

/-- A value of a primitive type of one to eight bytes that is no float. -/
structure Program.IsInteger (program : Program) (v : Value) (traits : Traits) (size x : Nat) :
    Prop where
  shape : program.shape v = .primitive traits
  integer : traits.float = false
  size_eq : (program.resolve v).size = size
  size_pos : 1 ≤ size
  size_le : size ≤ 8
  spells : program.Spells v size x

/-! ## Two's complement -/

/-- What `size` bytes can hold, and half of it. -/
theorem two_pow_eq {size : Nat} (h : 1 ≤ size) :
    Nat.pow 256 size = 2 ^ (8 * size) ∧ 2 ^ (8 * size) = 2 * 2 ^ (8 * size - 1) := by
  have bytes : Nat.pow 256 size = 2 ^ (8 * size) := by
    rw [pow_mul]
    rfl
  have half : 2 ^ (8 * size) = 2 * 2 ^ (8 * size - 1) := by
    rw [← pow_succ']
    congr 1
    omega
  exact ⟨bytes, half⟩

/-- Two's complement, for a number of so many bytes: the upper half stands for
negative numbers. -/
theorem twosComplement_of_lt {size x : Nat} (hsize : 1 ≤ size) (hx : x < Nat.pow 256 size) :
    twosComplement size x =
      if x < 2 ^ (8 * size - 1) then (x : Int) else x - 2 ^ (8 * size) := by
  obtain ⟨bytes, half⟩ := two_pow_eq hsize
  have whole : (2 ^ (8 * size) : Int) = ((2 ^ (8 * size) : Nat) : Int) := by push_cast; rfl
  have itself : (x : Int) % ((2 ^ (8 * size) : Nat) : Int) = x :=
    Int.emod_eq_of_lt (by omega) (by omega)
  rw [twosComplement, bytes, Int.bmod_def, itself, whole]
  split_ifs <;> omega

/-- A number with a sign is in two's complement. -/
theorem twosComplement_eq_number {traits : Traits} {size x : Nat} (hsize : 1 ≤ size)
    (hx : x < Nat.pow 256 size) (signed : traits.signed = true) :
    twosComplement size x = traits.number size x := by
  rw [twosComplement_of_lt hsize hx, Traits.number, signed]
  simp

/-- A number without a sign is what its bytes say. -/
theorem Traits.number_of_unsigned {traits : Traits} (unsigned : traits.signed = false)
    (size x : Nat) : traits.number size x = x := by
  simp [number, unsigned]

namespace Program.IsInteger

variable {program : Program} {v : Value} {traits : Traits} {size x : Nat}

/-! ## The bytes -/

/-- The bytes of an integer are read as a number without a sign. -/
theorem readScalar (h : program.IsInteger v traits size x) :
    (program.readScalar v size).result = .ok x := by
  unfold Program.readScalar
  cases h.spells with
  | stored place read number =>
    rw [place]
    exact Memory.readUInt_eq_ok_iff.mpr ⟨⟨h.size_pos, h.size_le⟩, _, read, number⟩
  | held place number =>
    rw [place]
    dsimp only
    rw [Nat.min_eq_left h.size_le, ← number]
    rfl

theorem lt (h : program.IsInteger v traits size x) : x < Nat.pow 256 size := by
  cases h.spells with
  | @stored addr bytes place read number =>
    have below := LittleEndian.ofBytes_lt bytes
    rwa [program.memory.length_of_read read, number] at below
  | held place number =>
    rw [← number]
    exact Nat.mod_lt _ (Nat.pow_pos (by omega))

/-- What has eight bytes or fewer is below `2 ^ 64`, and below `2 ^ 63` with
fewer. -/
theorem lt_two_pow (h : program.IsInteger v traits size x) :
    x < 2 ^ 64 ∧ (size ≠ 8 → x < 2 ^ 63) := by
  have below := h.lt
  have fits : Nat.pow 256 size ≤ Nat.pow 256 8 := Nat.pow_le_pow_right (by omega) h.size_le
  refine ⟨Nat.lt_of_lt_of_le below fits, ?_⟩
  intro hne
  have size_le := h.size_le
  have fewer : Nat.pow 256 size ≤ Nat.pow 256 7 := Nat.pow_le_pow_right (by omega) (by omega)
  have half : Nat.pow 256 7 ≤ 2 ^ 63 := by decide
  omega

/-! ## What is read and what is printed -/

/-- What is read is the number of the type, unless that is too large to have a
sign. -/
theorem readInt (h : program.IsInteger v traits size x) :
    (program.readInt v).result =
      .ok (if traits.signed = false ∧ size = 8 ∧ 2 ^ 63 ≤ x then (x : Int) - 2 ^ 64
        else traits.number size x) := by
  have shape : (program.resolve v).shape = .primitive traits := h.shape
  have read : (program.readInt v).result =
      .ok (twosComplement (if traits.signed then size else 8) x) := by
    unfold Program.readInt
    dsimp only
    rw [shape, h.size_eq]
    dsimp only
    rw [h.integer, if_neg Bool.false_ne_true, Look.result_bind_of_ok h.readScalar,
      Nat.min_eq_left h.size_le]
    rfl
  rw [read]
  congr 1
  cases signed : traits.signed with
  | true =>
    rw [if_pos rfl, twosComplement_eq_number h.size_pos h.lt signed]
    simp
  | false =>
    -- The number is taken into eight bytes with a sign, whatever its own size.
    obtain ⟨below, small⟩ := h.lt_two_pow
    rw [if_neg Bool.false_ne_true, twosComplement_of_lt (by omega) below,
      Traits.number_of_unsigned signed]
    show (if x < 2 ^ 63 then (x : Int) else x - 2 ^ 64) = _
    by_cases wraps : size = 8 ∧ 2 ^ 63 ≤ x
    · rw [if_neg (by omega), if_pos ⟨rfl, wraps⟩]
    · have less : x < 2 ^ 63 := by
        by_cases eight : size = 8
        · omega
        · exact small eight
      rw [if_pos less, if_neg (fun both => wraps both.2)]

theorem scalarText_eq_primitiveText (h : program.IsInteger v traits size x) :
    (program.scalarText v).result = primitiveText traits size x := by
  have shape : (program.resolve v).shape = .primitive traits := h.shape
  unfold Program.scalarText
  dsimp only
  rw [shape, h.size_eq]
  dsimp only
  rw [Look.result_bind_of_ok h.readScalar]
  rfl

/-- Of a truth value only the zero is false. -/
theorem scalarText_of_bool (h : program.IsInteger v traits size x) (bool : traits.bool = true) :
    (program.scalarText v).result = .ok (if x = 0 then "false" else "true") := by
  rw [h.scalarText_eq_primitiveText, primitiveText, if_pos bool]

/-- What is neither a truth value nor a character is printed as the number of the
type. -/
theorem scalarText (h : program.IsInteger v traits size x) (bool : traits.bool = false)
    (char : ¬ (traits.char = true ∧ size = 1)) :
    (program.scalarText v).result = .ok (toString (traits.number size x)) := by
  have noChar : (traits.char && size == 1) = false := by
    rw [← Bool.not_eq_true]
    simpa using char
  rw [h.scalarText_eq_primitiveText, primitiveText, bool, h.integer, noChar]
  simp only [Bool.false_eq_true, if_false]
  cases signed : traits.signed with
  | true =>
    rw [if_pos rfl, Nat.min_eq_left h.size_le,
      twosComplement_eq_number h.size_pos h.lt signed]
  | false =>
    rw [Traits.number_of_unsigned signed]
    rfl

end Program.IsInteger

/-- **Integers are read and printed as the same number.** For a value of an integer
type whose bytes are `x`, `readInt` gives the number of the type, or that number
less `2 ^ 64` if it is unsigned, has eight bytes and is at least `2 ^ 63`; the text
is the decimal of the number in all cases, unless it is a truth value or a
character. So the two are congruent modulo `2 ^ 64`, and differ exactly in the one
case. -/
theorem readInt_scalarText_number (program : Program) (v : Value) (traits : Traits) (size x : Nat)
    (h : program.IsInteger v traits size x) :
    (∃ i : Int,
      (program.readInt v).result = .ok i ∧
      i = (if traits.signed = false ∧ size = 8 ∧ 2 ^ 63 ≤ x then (x : Int) - 2 ^ 64
        else traits.number size x) ∧
      i ≡ traits.number size x [ZMOD 2 ^ 64] ∧
      (i ≠ traits.number size x ↔ traits.signed = false ∧ size = 8 ∧ 2 ^ 63 ≤ x)) ∧
    (traits.bool = true →
      (program.scalarText v).result = .ok (if x = 0 then "false" else "true")) ∧
    (traits.bool = false → ¬ (traits.char = true ∧ size = 1) →
      ∃ text, (program.scalarText v).result = .ok text ∧
        text = toString (traits.number size x) ∧
        text.toInt? = some (traits.number size x)) := by
  refine ⟨⟨_, h.readInt, rfl, ?_⟩, h.scalarText_of_bool, ?_⟩
  · by_cases wraps : traits.signed = false ∧ size = 8 ∧ 2 ^ 63 ≤ x
    · rw [if_pos wraps, Traits.number_of_unsigned wraps.1]
      refine ⟨Int.modEq_iff_dvd.mpr ⟨1, by omega⟩, ?_⟩
      exact ⟨fun _ => wraps, fun _ => by omega⟩
    · rw [if_neg wraps]
      exact ⟨Int.ModEq.refl _, fun differ => absurd rfl differ, fun both => absurd both wraps⟩
  · intro bool char
    exact ⟨_, h.scalarText bool char, rfl, Int.toInt?_repr _⟩

/-! ### The largest number of eight bytes -/

/-- An unsigned number of eight bytes in memory, with all bits set. -/
def allOnesProgram : Program where
  types := ⟨#[.unknown, TypeTable.primitiveEntry "uint64_t" 8 {}]⟩
  memory := Snapshot.memory ⟨[⟨0x10, List.replicate 8 0xFF⟩]⟩

/-- It is read as minus one, and printed as what it is. -/
theorem readInt_scalarText_number_allOnes :
    allOnesProgram.IsInteger (.stored 0x10 1) {} 8 (2 ^ 64 - 1) ∧
      (allOnesProgram.readInt (.stored 0x10 1)).result = .ok (-1) ∧
      (allOnesProgram.scalarText (.stored 0x10 1)).result = .ok "18446744073709551615" := by
  have integer : allOnesProgram.IsInteger (.stored 0x10 1) {} 8 (2 ^ 64 - 1) :=
    ⟨rfl, rfl, rfl, by omega, by omega, .stored rfl rfl rfl⟩
  obtain ⟨⟨i, read, value, -⟩, -, printed⟩ := readInt_scalarText_number _ _ _ _ _ integer
  obtain ⟨text, shown, decimal, -⟩ := printed rfl (by decide)
  refine ⟨integer, ?_, ?_⟩
  · rw [read, value]
    rfl
  · rw [shown, decimal]
    rfl

end HeapLens
