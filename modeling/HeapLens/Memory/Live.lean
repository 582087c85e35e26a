import HeapLens.Memory.Basic

/-!
# Memory of a live process

The bytes of a live process are fetched by the system, which is asked for nothing
unless at least one byte is wanted. How it fetches them is a parameter.
-/

namespace HeapLens

/-- A process and the way in which its memory is fetched. -/
structure LiveProcess where
  pid : Int
  /-- The bytes that the system could fetch, `none` if the address is not mapped. -/
  fetch : (addr len : Nat) → Option (List UInt8)

namespace LiveProcess

/-- `len` bytes of the process; fewer than that are a failure. -/
def read (process : LiveProcess) (addr len : Nat) : Except Fault (List UInt8) :=
  if len = 0 then .ok []
  else
    match process.fetch addr len with
    | none => .error (.badAddress addr)
    | some bytes => if bytes.length = len then .ok bytes else .error (.truncatedRead addr len)

theorem length_of_read {process : LiveProcess} {addr len : Nat} {bytes : List UInt8}
    (h : process.read addr len = .ok bytes) : bytes.length = len := by
  unfold read at h
  split at h
  · cases h; simp [*]
  · split at h
    · cases h
    · split at h <;> cases h
      assumption

def memory (process : LiveProcess) : Memory := ⟨process.read, length_of_read⟩

/-- Reading nothing succeeds whatever the system would say. -/
theorem read_zero (process : LiveProcess) (addr : Nat) : process.read addr 0 = .ok [] := rfl

end LiveProcess

end HeapLens
