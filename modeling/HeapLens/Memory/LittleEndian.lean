/-!
# Little-endian numbers

The number that bytes spell, lowest byte first, and the bytes of a number.
`ofBytes_toBytes` and `ofBytes_append` say that the two agree and that a number can
be read in parts.
-/

namespace HeapLens.LittleEndian

/-- The number that `bytes` spell, lowest byte first. -/
def ofBytes : List UInt8 → Nat
  | [] => 0
  | b :: bytes => b.toNat + 256 * ofBytes bytes

/-- The lowest `size` bytes of `x`. -/
def toBytes : (size : Nat) → (x : Nat) → List UInt8
  | 0, _ => []
  | size + 1, x => UInt8.ofNat x :: toBytes size (x / 256)

@[simp] theorem length_toBytes (size x : Nat) : (toBytes size x).length = size := by
  induction size generalizing x with
  | zero => rfl
  | succ size ih => simp [toBytes, ih]

/-- The number of some bytes is less than the next power of `256`. -/
theorem ofBytes_lt (bytes : List UInt8) : ofBytes bytes < Nat.pow 256 bytes.length := by
  induction bytes with
  | nil => decide
  | cons b bytes ih =>
    have := b.toNat_lt
    show b.toNat + 256 * ofBytes bytes < Nat.pow 256 bytes.length * 256
    omega

/-- A number is its low part, then its high part. -/
theorem ofBytes_append (low high : List UInt8) :
    ofBytes (low ++ high) = ofBytes low + Nat.pow 256 low.length * ofBytes high := by
  induction low with
  | nil => simp [ofBytes]
  | cons b low ih =>
    show _ = _ + Nat.pow 256 low.length * 256 * ofBytes high
    rw [List.cons_append, ofBytes, ofBytes, ih, Nat.mul_comm _ 256, Nat.mul_add, Nat.mul_assoc,
      Nat.add_assoc]

/-- The bytes of a number spell what fits into them. -/
theorem ofBytes_toBytes (size x : Nat) : ofBytes (toBytes size x) = x % Nat.pow 256 size := by
  induction size generalizing x with
  | zero => simp [toBytes, ofBytes, Nat.mod_one]
  | succ size ih =>
    show _ = x % (Nat.pow 256 size * 256)
    rw [toBytes, ofBytes, ih, Nat.mul_comm (Nat.pow 256 size), Nat.mod_mul]
    simp [UInt8.toNat_ofNat']

end HeapLens.LittleEndian
