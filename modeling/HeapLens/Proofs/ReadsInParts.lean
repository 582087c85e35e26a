import HeapLens.Proofs.SnapshotHistory
import Mathlib.Algebra.BigOperators.Fin
import Mathlib.Order.CompletePartialOrder
import Mathlib.Order.Interval.Set.Disjoint
import Mathlib.Tactic.Ring

/-!
# Numbers are read in parts, and read back when they were written

A number in memory is spelled by the bytes at consecutive addresses, which one
region has to have. Two facts about reads of bytes carry what is said of numbers:

> `read_window`: what lies within a read can be read by itself, and gives the same
> bytes.
> `read_of_write_of_disjoint`: a write is seen by no read that it has no address in
> common with, not even by one that fails.

The first gives the single bytes of a number, and its low and its high part. For the
second the regions are compared: a write moves none, so that the nearest to an
address is the same before and behind it, or is the one that was written
(`nearest?_write`).
-/

namespace HeapLens

/-! ## Bytes of a number -/

namespace LittleEndian

/-- Each byte counts `256` times as much as the one in front of it. -/
theorem ofBytes_eq_sum (bytes : List UInt8) :
    ofBytes bytes = ∑ i : Fin bytes.length, bytes[i].toNat * 256 ^ (i : Nat) := by
  induction bytes with
  | nil => rfl
  | cons b bytes ih =>
    have shifted : ∑ i : Fin bytes.length, bytes[i].toNat * 256 ^ ((i : Nat) + 1) =
        256 * ∑ i : Fin bytes.length, bytes[i].toNat * 256 ^ (i : Nat) := by
      rw [Finset.mul_sum]
      refine Finset.sum_congr rfl fun i _ => ?_
      rw [pow_succ]
      ring
    rw [ofBytes, ih, ← shifted]
    show _ = ∑ i : Fin (bytes.length + 1), _
    rw [Fin.sum_univ_succ]
    simp

/-- Zeros behind the bytes count nothing. -/
theorem ofBytes_append_zeros (bytes : List UInt8) (count : Nat) :
    ofBytes (bytes ++ List.replicate count 0) = ofBytes bytes := by
  have zeros : ofBytes (List.replicate count 0) = 0 := by
    induction count with
    | zero => rfl
    | succ count ih => rw [List.replicate_succ, ofBytes, ih]; rfl
  rw [ofBytes_append, zeros, Nat.mul_zero, Nat.add_zero]

/-- A number that fits into its bytes is read back from them. -/
theorem ofBytes_toBytes_of_lt {size x : Nat} (h : x < 256 ^ size) :
    ofBytes (toBytes size x) = x := by
  rw [ofBytes_toBytes]
  exact Nat.mod_eq_of_lt h

end LittleEndian

/-! ## Words -/

theorem Memory.readWord_eq (memory : Memory) (addr : Nat) :
    memory.readWord addr = memory.readUInt addr 8 := rfl

/-- A function that leaves each result as it is changes nothing. -/
theorem Look.map_eq_self {x : Look α} {f : α → α} (h : ∀ a, x.result = .ok a → f a = a) :
    f <$> x = x := by
  rw [← bind_pure_comp]
  apply Traced.ext
  · show (x >>= fun a => pure (f a)).result = x.result
    rw [result_bind]
    cases found : x.result with
    | ok a => exact congrArg Except.ok (h a found)
    | error fault => rfl
  · show (x >>= fun a => pure (f a)).events = x.events
    rw [events_bind]
    cases x.result <;> exact List.append_nil _

/-- A word is an address as it is. -/
theorem Memory.readAddress_eq (memory : Memory) (addr : Nat) :
    memory.readAddress addr = memory.readUInt addr 8 := by
  refine Look.map_eq_self ?_
  intro x h
  rw [readWord_eq] at h
  exact Nat.mod_eq_of_lt (readUInt_lt h)

/-! ## Overwritten regions -/

namespace Region

@[simp] theorem start_overwrite (r : Region) (offset : Nat) (bytes : List UInt8) :
    (r.overwrite offset bytes).start = r.start := rfl

/-- Bytes that a region has are replaced by as many. -/
theorem Covers.length_overwrite {r : Region} {addr : Nat} {bytes : List UInt8}
    (h : r.Covers addr bytes.length) :
    (r.overwrite (addr - r.start) bytes).bytes.length = r.bytes.length := by
  obtain ⟨hlo, hhi⟩ := h
  unfold stop at hhi
  exact Region.length_overwrite (by omega)

end Region

namespace Snapshot

variable {s t : Snapshot} {addr len : Nat} {bytes : List UInt8}

/-! ## Reads within reads -/

/-- A part of what can be read can be read. -/
theorem read_window (h : s.Valid) (hread : s.read addr len = .ok bytes) {i count : Nat}
    (hcount : 1 ≤ count) (hin : i + count ≤ len) :
    s.read (addr + i) count = .ok ((bytes.drop i).take count) := by
  obtain ⟨r, hr, hcovers⟩ := (exists_read_iff h (by omega)).mp ⟨bytes, hread⟩
  rw [read_of_covers h hr (by omega) hcovers] at hread
  cases hread
  obtain ⟨hlo, hhi⟩ := hcovers
  have hcovers' : r.Covers (addr + i) count := ⟨by omega, by omega⟩
  have hoffset : addr + i - r.start = addr - r.start + i := by omega
  have hmin : min count (len - i) = count := by omega
  rw [read_of_covers h hr hcount hcovers', hoffset, List.drop_take, List.take_take, hmin,
    List.drop_drop]

/-- What is read ends at an address. -/
theorem add_lt_of_read (h : s.Valid) (hlen : 1 ≤ len) (hread : s.read addr len = .ok bytes) :
    addr + len < addressLimit := by
  obtain ⟨r, hr, -, hhi⟩ := (exists_read_iff h hlen).mp ⟨bytes, hread⟩
  exact Nat.lt_of_le_of_lt hhi (h.bounded r hr)

/-! ## Reads behind a write -/

/-- A write moves no region. -/
theorem nearest?_write (hwrite : s.write addr bytes = .ok t) (x : Nat) :
    t.nearest? x = s.nearest? x ∨
      ∃ r, r.Covers addr bytes.length ∧ s.nearest? x = some r ∧
        t.nearest? x = some (r.overwrite (addr - r.start) bytes) := by
  obtain ⟨upper, r, lower, hsplit, hnew, hcovers⟩ := eq_of_write hwrite
  unfold nearest?
  rw [hsplit, hnew, List.find?_append, List.find?_append]
  cases upper.find? fun q => decide (q.start ≤ x) with
  | some q => exact .inl rfl
  | none =>
    rw [Option.none_or, Option.none_or]
    by_cases hlo : r.start ≤ x
    · right
      refine ⟨r, hcovers, ?_, ?_⟩
      · exact List.find?_cons_of_pos (decide_eq_true hlo)
      · exact List.find?_cons_of_pos (decide_eq_true hlo)
    · left
      rw [List.find?_cons_of_neg (by simpa [Region.overwrite] using hlo),
        List.find?_cons_of_neg (by simpa using hlo)]

/-- Outside of the new bytes an overwritten region has what it had. -/
theorem take_drop_overwrite {r : Region} (hcovers : r.Covers addr bytes.length) {x : Nat}
    (hlo : r.start ≤ x)
    (hapart : Disjoint (Set.Ico x (x + len)) (Set.Ico addr (addr + bytes.length))) :
    ((r.overwrite (addr - r.start) bytes).bytes.drop (x - r.start)).take len =
      (r.bytes.drop (x - r.start)).take len := by
  refine List.ext_getElem? fun i => ?_
  rcases Nat.lt_or_ge i len with hi | hi
  · have houtside : x + i ∉ Set.Ico addr (addr + bytes.length) :=
      Set.disjoint_left.mp hapart ⟨by omega, by omega⟩
    have hnone : Region.byteAt ⟨addr, bytes⟩ (x + i) = none := by
      rw [Region.byteAt_eq_none_iff]
      simpa [Set.mem_Ico, Region.stop, or_iff_not_imp_left] using houtside
    have hsame := Region.byteAt_overwrite hcovers (x + i)
    rw [hnone, Option.none_or] at hsame
    have hoffset : x + i - r.start = x - r.start + i := by omega
    unfold Region.byteAt at hsame
    rw [Region.start_overwrite, if_pos (by omega), if_pos (by omega), hoffset] at hsame
    rw [List.getElem?_take_of_lt hi, List.getElem?_take_of_lt hi, List.getElem?_drop,
      List.getElem?_drop, hsame]
  · rw [List.getElem?_take_eq_none hi, List.getElem?_take_eq_none hi]

/-- A write changes nothing that it does not write to. -/
theorem read_of_write_of_disjoint (hwrite : s.write addr bytes = .ok t) {x : Nat}
    (hapart : Disjoint (Set.Ico x (x + len)) (Set.Ico addr (addr + bytes.length))) :
    t.read x len = s.read x len := by
  unfold read
  rcases nearest?_write hwrite x with hsame | ⟨r, hcovers, hs, ht⟩
  · rw [hsame]
  · rw [hs, ht]
    dsimp only
    rw [Region.start_overwrite, hcovers.length_overwrite,
      take_drop_overwrite hcovers (mem_of_nearest? hs).2 hapart]

/-- What was written is read. -/
theorem read_of_write (h : s.Valid) (hne : bytes ≠ []) (hwrite : s.write addr bytes = .ok t) :
    t.read addr bytes.length = .ok bytes := by
  obtain ⟨upper, r, lower, -, hnew, hcovers⟩ := eq_of_write hwrite
  have hlength := hcovers.length_overwrite
  obtain ⟨hlo, hhi⟩ := hcovers
  unfold Region.stop at hhi
  have hcovers' : (r.overwrite (addr - r.start) bytes).Covers addr bytes.length := by
    refine ⟨hlo, ?_⟩
    unfold Region.stop
    rw [hlength]
    exact hhi
  have hmem : r.overwrite (addr - r.start) bytes ∈ t.regions := by
    rw [hnew]
    exact List.mem_append_right _ List.mem_cons_self
  have hbefore : (r.bytes.take (addr - r.start)).length = addr - r.start := by
    rw [List.length_take]
    omega
  rw [read_of_covers (h.write hwrite) hmem (List.length_pos_iff.mpr hne) hcovers']
  unfold Region.overwrite
  dsimp only
  rw [List.append_assoc, List.drop_left' hbefore, List.take_left' rfl]

/-! ## Numbers -/

/-- A number is the sum of its bytes, each of which can be read by itself. -/
theorem sum_of_readUInt (h : s.Valid) {size x : Nat}
    (hread : (s.memory.readUInt addr size).result = .ok x) :
    ∃ bytes, bytes.length = size ∧
      (∀ i (hi : i < bytes.length), s.read (addr + i) 1 = .ok [bytes[i]]) ∧
      x = LittleEndian.ofBytes (bytes ++ List.replicate (8 - size) 0) ∧
      x = ∑ i : Fin bytes.length, bytes[i].toNat * 256 ^ (i : Nat) := by
  obtain ⟨-, bytes, hbytes, rfl⟩ := Memory.readUInt_eq_ok_iff.mp hread
  have hlength : bytes.length = size := length_of_read hbytes
  refine ⟨bytes, hlength, ?_, (LittleEndian.ofBytes_append_zeros bytes _).symm,
    LittleEndian.ofBytes_eq_sum bytes⟩
  intro i hi
  rw [read_window h hbytes (Nat.le_refl 1) (by omega), List.drop_eq_getElem_cons hi]
  rfl

/-- A number is read as its low part and its high part. -/
theorem exists_parts_of_readUInt (h : s.Valid) {low high x : Nat} (hlow : 1 ≤ low)
    (hhigh : 1 ≤ high) (hread : (s.memory.readUInt addr (low + high)).result = .ok x) :
    ∃ y z, (s.memory.readUInt addr low).result = .ok y ∧
      (s.memory.readUInt (addr + low) high).result = .ok z ∧ x = y + 256 ^ low * z := by
  obtain ⟨⟨-, hfits⟩, bytes, hbytes, rfl⟩ := Memory.readUInt_eq_ok_iff.mp hread
  have hlength : bytes.length = low + high := length_of_read hbytes
  have hfirst := read_window h hbytes hlow (i := 0) (by omega)
  have hrest := read_window h hbytes hhigh (i := low) (by omega)
  have htake : (bytes.take low).length = low := by
    rw [List.length_take]
    omega
  have hdrop : (bytes.drop low).take high = bytes.drop low := by
    refine List.take_of_length_le ?_
    rw [List.length_drop]
    omega
  rw [Nat.add_zero, List.drop_zero] at hfirst
  rw [hdrop] at hrest
  refine ⟨_, _, Memory.readUInt_eq_ok_iff.mpr ⟨⟨hlow, by omega⟩, _, hfirst, rfl⟩,
    Memory.readUInt_eq_ok_iff.mpr ⟨⟨hhigh, by omega⟩, _, hrest, rfl⟩, ?_⟩
  have happend := LittleEndian.ofBytes_append (bytes.take low) (bytes.drop low)
  rwa [List.take_append_drop, htake] at happend

/-- A number that was written is read back. -/
theorem readUInt_of_write (h : s.Valid) {size x : Nat} (hsize : 1 ≤ size ∧ size ≤ 8)
    (hx : x < 256 ^ size) (hwrite : s.write addr (LittleEndian.toBytes size x) = .ok t) :
    (t.memory.readUInt addr size).result = .ok x := by
  have hlength := LittleEndian.length_toBytes size x
  have hne : LittleEndian.toBytes size x ≠ [] := by
    rw [← List.length_pos_iff]
    omega
  have hread := read_of_write h hne hwrite
  rw [hlength] at hread
  exact Memory.readUInt_eq_ok_iff.mpr
    ⟨hsize, _, hread, LittleEndian.ofBytes_toBytes_of_lt hx⟩

/-- **Numbers are read in parts, and read back when they were written.** After any
additions and writes a number that is read is what its mapped bytes sum up to,
lowest first; the same bytes are read as a low and a high part, of which the number
is put together. Words and addresses are numbers of eight bytes, in what is read, in
the fault, and in the reads that are made. A number that was written with as many
bytes as it fits into is read back, and all reads that have no address in common
with it are as they were. -/
theorem readUInt_composes (ops : List Op) :
    (∀ addr size x, ((run ops).memory.readUInt addr size).result = .ok x →
      x < 256 ^ size ∧
      ∃ bytes, bytes.length = size ∧
        (∀ i (hi : i < bytes.length), (run ops).read (addr + i) 1 = .ok [bytes[i]]) ∧
        x = LittleEndian.ofBytes (bytes ++ List.replicate (8 - size) 0) ∧
        x = ∑ i : Fin bytes.length, bytes[i].toNat * 256 ^ (i : Nat)) ∧
    (∀ addr low high x, 1 ≤ low → 1 ≤ high → low + high ≤ 8 →
      ((run ops).memory.readUInt addr (low + high)).result = .ok x →
      addr + (low + high) < 2 ^ 64 ∧
      ∃ y z, ((run ops).memory.readUInt addr low).result = .ok y ∧
        ((run ops).memory.readUInt (addr + low) high).result = .ok z ∧ x = y + 256 ^ low * z) ∧
    (∀ addr, (run ops).memory.readWord addr = (run ops).memory.readUInt addr 8 ∧
      (run ops).memory.readAddress addr = (run ops).memory.readUInt addr 8) ∧
    (∀ addr size x t, 1 ≤ size → size ≤ 8 → x < 256 ^ size →
      (run ops).write addr (LittleEndian.toBytes size x) = .ok t →
      (t.memory.readUInt addr size).result = .ok x ∧
      ∀ other len, Disjoint (Set.Ico other (other + len)) (Set.Ico addr (addr + size)) →
        t.read other len = (run ops).read other len) := by
  have hvalid : (run ops).Valid := (recalls_run ops).valid
  refine ⟨?_, ?_, ?_, ?_⟩
  · intro addr size x hread
    exact ⟨Memory.readUInt_lt hread, sum_of_readUInt hvalid hread⟩
  · intro addr low high x hlow hhigh _ hread
    obtain ⟨-, bytes, hbytes, -⟩ := Memory.readUInt_eq_ok_iff.mp hread
    exact ⟨add_lt_of_read hvalid (by omega) hbytes,
      exists_parts_of_readUInt hvalid hlow hhigh hread⟩
  · intro addr
    exact ⟨Memory.readWord_eq _ addr, Memory.readAddress_eq _ addr⟩
  · intro addr size x t hsize hfits hx hwrite
    refine ⟨readUInt_of_write hvalid ⟨hsize, hfits⟩ hx hwrite, ?_⟩
    intro other len hapart
    refine read_of_write_of_disjoint hwrite ?_
    rwa [LittleEndian.length_toBytes]

/-- Of two regions that touch, the first has a number of three bytes. Its high part
is written, and the second region is read as before. -/
theorem readUInt_composes_touching :
    let s := run [.add 0x10 [1, 2, 3], .add 0x13 [4, 5]]
    (s.memory.readUInt 0x10 3).result = .ok 0x030201 ∧
    (∃ y z, (s.memory.readUInt 0x10 1).result = .ok y ∧
      (s.memory.readUInt 0x11 2).result = .ok z ∧ 0x030201 = y + 256 ^ 1 * z) ∧
    ∃ t, s.write 0x11 (LittleEndian.toBytes 2 0xBBAA) = .ok t ∧
      (t.memory.readUInt 0x11 2).result = .ok 0xBBAA ∧
      t.read 0x13 2 = s.read 0x13 2 ∧ t.read 0x13 3 = s.read 0x13 3 := by
  intro s
  obtain ⟨-, parts, -, written⟩ := readUInt_composes [.add 0x10 [1, 2, 3], .add 0x13 [4, 5]]
  have number : (s.memory.readUInt 0x10 3).result = .ok 0x030201 := rfl
  obtain ⟨back, others⟩ := written 0x11 2 0xBBAA _ (by omega) (by omega) (by omega) rfl
  have apart : ∀ len, Disjoint (Set.Ico 0x13 (0x13 + len)) (Set.Ico 0x11 (0x11 + 2)) := by
    intro len
    rw [Set.Ico_disjoint_Ico]
    omega
  exact ⟨number, (parts 0x10 1 2 _ (by omega) (by omega) (by omega) number).2, _, rfl, back,
    others 0x13 2 (apart 2), others 0x13 3 (apart 3)⟩

end Snapshot

end HeapLens
