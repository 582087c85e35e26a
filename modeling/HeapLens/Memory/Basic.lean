import HeapLens.Look
import HeapLens.Memory.LittleEndian

/-!
# Memory of the inspected program

A `Memory` answers reads. It is used through `readBytes` and `readUInt`, which
record in the trace that memory was asked.
-/

namespace HeapLens

/-- Addresses, sizes and offsets are below this bound; what would reach it is
refused. -/
def addressLimit : Nat := 0x10000000000000000

/-- Something that answers reads of `len` bytes at an address. -/
structure Memory where
  read : (addr len : Nat) → Except Fault (List UInt8)
  /-- A read gives all that was asked for, or fails. -/
  length_of_read : ∀ {addr len : Nat} {bytes : List UInt8},
    read addr len = .ok bytes → bytes.length = len

namespace Memory

/-- The bytes from `addr` on. -/
def readBytes (memory : Memory) (addr len : Nat) : Look (List UInt8) :=
  ExceptT.mk ⟨memory.read addr len, [.read addr len]⟩

/-- The unsigned number in the `size` bytes from `addr` on. A size that no integer
has is refused before memory is asked. -/
def readUInt (memory : Memory) (addr size : Nat) : Look Nat :=
  if 1 ≤ size ∧ size ≤ 8 then LittleEndian.ofBytes <$> memory.readBytes addr size
  else throw (.integerSize size)

/-- The unsigned number in the eight bytes from `addr` on. -/
def readWord (memory : Memory) (addr : Nat) : Look Nat :=
  LittleEndian.ofBytes <$> memory.readBytes addr 8

/-- A word as an address. -/
def readAddress (memory : Memory) (addr : Nat) : Look Nat :=
  (· % addressLimit) <$> memory.readWord addr

@[simp] theorem result_readBytes (memory : Memory) (addr len : Nat) :
    (memory.readBytes addr len).result = memory.read addr len := rfl

/-- One read, whether the memory can answer or not. -/
@[simp] theorem events_readBytes (memory : Memory) (addr len : Nat) :
    (memory.readBytes addr len).events = [.read addr len] := rfl

/-- An unsigned number is read from one to eight bytes, which spell it. -/
theorem readUInt_eq_ok_iff {memory : Memory} {addr size x : Nat} :
    (memory.readUInt addr size).result = .ok x ↔
      (1 ≤ size ∧ size ≤ 8) ∧
        ∃ bytes, memory.read addr size = .ok bytes ∧ LittleEndian.ofBytes bytes = x := by
  unfold readUInt
  constructor
  · intro h
    split at h
    · next fits =>
      rw [← bind_pure_comp] at h
      obtain ⟨bytes, hbytes, h⟩ := Look.exists_of_result_bind h
      exact ⟨fits, bytes, hbytes, Except.ok.inj h⟩
    · cases h
  · rintro ⟨fits, bytes, hbytes, rfl⟩
    have hread : (memory.readBytes addr size).result = .ok bytes := hbytes
    rw [if_pos fits, ← bind_pure_comp, Look.result_bind_of_ok hread]
    rfl

/-- What is read as an unsigned number fits into its bytes. -/
theorem readUInt_lt {memory : Memory} {addr size x : Nat}
    (h : (memory.readUInt addr size).result = .ok x) : x < Nat.pow 256 size := by
  obtain ⟨-, bytes, hbytes, rfl⟩ := readUInt_eq_ok_iff.mp h
  have hlt := LittleEndian.ofBytes_lt bytes
  rwa [memory.length_of_read hbytes] at hlt

end Memory

end HeapLens
