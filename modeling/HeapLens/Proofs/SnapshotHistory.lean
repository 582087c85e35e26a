import HeapLens.Proofs.SnapshotRegions
import Mathlib.Algebra.Group.Nat.Defs

/-!
# Snapshots: a map from addresses to bytes

A snapshot is put together by additions and writes, some of which fail. Seen from
outside it is a map: `byteAt` gives the byte at an address, if one is mapped. What
succeeds changes the map in the same way whether it adds or writes, the bytes given
come before those that were there (`byteAt_add`, `byteAt_write`); what fails changes
nothing.

> `Recalls`: at each address there is the byte of the last write that covered it, or
> else the one that was added.

`run_refines` says of every sequence of additions and writes what the snapshot then
accepts and what it answers.
-/

namespace HeapLens

/-- The byte of a region at an address, if the address is in the region. -/
def Region.byteAt (r : Region) (x : Nat) : Option UInt8 :=
  if r.start ≤ x then r.bytes[x - r.start]? else none

/-- Outside of its bounds a region has no byte, and inside it has one everywhere. -/
theorem Region.byteAt_eq_none_iff {r : Region} {x : Nat} :
    r.byteAt x = none ↔ x < r.start ∨ r.stop ≤ x := by
  unfold byteAt stop
  split
  · rw [List.getElem?_eq_none_iff]
    omega
  · next hlt =>
    exact ⟨fun _ => Or.inl (Nat.lt_of_not_le hlt), fun _ => rfl⟩

/-- Regions that lie apart have no byte in common. -/
theorem Region.Apart.byteAt_eq_none {r q : Region} (h : r.Apart q) {x : Nat} {b : UInt8}
    (hb : r.byteAt x = some b) : q.byteAt x = none := by
  have hin : ¬ r.byteAt x = none := by rw [hb]; exact Option.some_ne_none b
  rw [Region.byteAt_eq_none_iff] at hin ⊢
  unfold Region.Apart at h
  omega

/-- Where it is overwritten, a region has the new bytes. -/
theorem Region.byteAt_overwrite {r : Region} {addr : Nat} {bytes : List UInt8}
    (h : r.Covers addr bytes.length) (x : Nat) :
    (r.overwrite (addr - r.start) bytes).byteAt x =
      (Region.byteAt ⟨addr, bytes⟩ x).or (r.byteAt x) := by
  obtain ⟨hlo, hhi⟩ := h
  unfold stop at hhi
  have htake : (r.bytes.take (addr - r.start)).length = addr - r.start := by
    rw [List.length_take]
    omega
  -- Before the new bytes, within them, and behind them.
  rcases Nat.lt_or_ge x addr with hbefore | hafter
  · have hnone : Region.byteAt ⟨addr, bytes⟩ x = none := byteAt_eq_none_iff.mpr (Or.inl hbefore)
    rw [hnone, Option.none_or]
    unfold byteAt overwrite
    dsimp only
    split
    · rw [List.append_assoc, List.getElem?_append_left (by omega),
        List.getElem?_take_of_lt (by omega)]
    · rfl
  · have hhere : Region.byteAt ⟨addr, bytes⟩ x = bytes[x - addr]? := if_pos hafter
    have hoffset : x - r.start - (addr - r.start) = x - addr := by omega
    rw [hhere]
    unfold byteAt overwrite
    dsimp only
    rw [if_pos (by omega), if_pos (by omega), List.append_assoc,
      List.getElem?_append_right (by omega), htake, hoffset]
    rcases Nat.lt_or_ge (x - addr) bytes.length with hin | hbehind
    · rw [List.getElem?_append_left hin, List.getElem?_eq_getElem hin]
      rfl
    · rw [List.getElem?_append_right hbehind, List.getElem?_drop, List.getElem?_eq_none hbehind,
        Option.none_or]
      congr 1
      omega

namespace Snapshot

/-- The byte at an address, if the address is mapped. -/
def byteAt (s : Snapshot) (x : Nat) : Option UInt8 := s.regions.findSome? fun r => r.byteAt x

variable {s t : Snapshot} {addr len start x : Nat} {bytes : List UInt8}

/-! ## The map -/

theorem findSome?_cons_eq_or (r : Region) (regions : List Region) :
    (r :: regions).findSome? (fun q => q.byteAt x) =
      (r.byteAt x).or (regions.findSome? fun q => q.byteAt x) := by
  rw [List.findSome?_cons]
  cases r.byteAt x <;> rfl

/-- No two regions have a byte at the same address, so that any of them may answer
for it. -/
theorem byteAt_of_mem (h : s.Valid) {r : Region} (hr : r ∈ s.regions) {b : UInt8}
    (hb : r.byteAt x = some b) : s.byteAt x = some b := by
  obtain ⟨upper, lower, hsplit⟩ := List.append_of_mem hr
  have happart := h.apart
  rw [hsplit, List.pairwise_append] at happart
  have hupper : (upper.findSome? fun q => q.byteAt x) = none := by
    rw [List.findSome?_eq_none_iff]
    intro q hq
    have hbelow : r.stop ≤ q.start := happart.2.2 q hq r (List.mem_cons_self ..)
    exact Region.Apart.byteAt_eq_none (Or.inl hbelow) hb
  unfold byteAt
  rw [hsplit, List.findSome?_append, hupper, List.findSome?_cons, hb]
  rfl

/-- A read gives the bytes of the map. -/
theorem getElem?_of_read (h : s.Valid) (hread : s.read addr len = .ok bytes) {i : Nat}
    (hi : i < len) : bytes[i]? = s.byteAt (addr + i) := by
  have hlen : 1 ≤ len := by omega
  obtain ⟨r, hr, hcovers⟩ := (exists_read_iff h hlen).mp ⟨bytes, hread⟩
  rw [read_of_covers h hr hlen hcovers] at hread
  cases hread
  obtain ⟨hlo, hhi⟩ := hcovers
  unfold Region.stop at hhi
  have hlt : addr - r.start + i < r.bytes.length := by omega
  have hbyte : r.byteAt (addr + i) = some r.bytes[addr - r.start + i] := by
    unfold Region.byteAt
    rw [if_pos (by omega), show addr + i - r.start = addr - r.start + i by omega,
      List.getElem?_eq_getElem hlt]
  rw [byteAt_of_mem h hr hbyte, List.getElem?_take_of_lt hi, List.getElem?_drop,
    List.getElem?_eq_getElem hlt]

/-- Where something can be added, nothing is mapped. -/
theorem byteAt_eq_none_of_free {region : Region} (hfree : s.Free region) {b : UInt8}
    (hb : region.byteAt x = some b) : s.byteAt x = none := by
  unfold byteAt
  rw [List.findSome?_eq_none_iff]
  intro r hr
  exact (hfree r hr).byteAt_eq_none hb

/-- Where a region is put among the others does not matter, since it lies apart from
them. -/
theorem findSome?_place {region : Region} {regions : List Region}
    (hfree : ∀ r ∈ regions, region.Apart r) :
    (place region regions).findSome? (fun r => r.byteAt x) =
      (region.byteAt x).or (regions.findSome? fun r => r.byteAt x) := by
  induction regions with
  | nil => rw [place, findSome?_cons_eq_or]
  | cons r rest ih =>
    rw [place]
    split
    · exact findSome?_cons_eq_or region (r :: rest)
    · rw [findSome?_cons_eq_or, findSome?_cons_eq_or,
        ih fun q hq => hfree q (List.mem_cons_of_mem _ hq)]
      -- The new region comes second, but only one of the two can have the byte.
      cases hb : region.byteAt x with
      | none => rfl
      | some b =>
        rw [(hfree r (List.mem_cons_self ..)).byteAt_eq_none hb, Option.none_or]
        rfl

/-- Adding a region adds its bytes, and leaves all others as they are. -/
theorem byteAt_add (h : s.Valid) (hadd : s.add start bytes = .ok t) :
    t.byteAt x = (Region.byteAt ⟨start, bytes⟩ x).or (s.byteAt x) := by
  by_cases hne : bytes = []
  · subst hne
    rw [add_nil] at hadd
    cases hadd
    have hnone : Region.byteAt ⟨start, []⟩ x = none := by
      rw [Region.byteAt_eq_none_iff]
      unfold Region.stop
      exact Nat.lt_or_ge x start
    rw [hnone]
    rfl
  · obtain ⟨-, hfree, rfl⟩ := (add_eq_ok_iff h hne).mp hadd
    exact findSome?_place hfree

/-- Writing replaces the bytes that are written to. -/
theorem byteAt_write (h : s.Valid) (hwrite : s.write addr bytes = .ok t) :
    t.byteAt x = (Region.byteAt ⟨addr, bytes⟩ x).or (s.byteAt x) := by
  obtain ⟨upper, r, lower, hsplit, hnew, hcovers⟩ := eq_of_write hwrite
  have hover := Region.byteAt_overwrite hcovers x
  unfold byteAt
  rw [hsplit, hnew, List.findSome?_append, List.findSome?_append, findSome?_cons_eq_or,
    findSome?_cons_eq_or, hover]
  cases hb : Region.byteAt ⟨addr, bytes⟩ x with
  | none => rfl
  | some b =>
    -- The regions above the one that is written begin behind all of the new bytes.
    have hupper : (upper.findSome? fun q => q.byteAt x) = none := by
      rw [List.findSome?_eq_none_iff]
      intro q hq
      have happart := h.apart
      rw [hsplit, List.pairwise_append] at happart
      have hbelow : r.stop ≤ q.start := happart.2.2 q hq r (List.mem_cons_self ..)
      have hnew : Region.Apart ⟨addr, bytes⟩ q := Or.inl (Nat.le_trans hcovers.2 hbelow)
      exact hnew.byteAt_eq_none hb
    rw [hupper]
    rfl

/-! ## One operation -/

inductive Op where
  | add (start : Nat) (bytes : List UInt8)
  | write (addr : Nat) (bytes : List UInt8)
  deriving DecidableEq, Repr

/-- The byte that an operation adds at an address. -/
def Op.added (x : Nat) : Op → Option UInt8
  | .add start bytes => Region.byteAt ⟨start, bytes⟩ x
  | .write _ _ => none

/-- The byte that an operation writes at an address. -/
def Op.written (x : Nat) : Op → Option UInt8
  | .add _ _ => none
  | .write addr bytes => Region.byteAt ⟨addr, bytes⟩ x

/-- What an operation makes of the snapshot, or the fault in which it ends. -/
def apply (s : Snapshot) : Op → Except Fault Snapshot
  | .add start bytes => s.add start bytes
  | .write addr bytes => s.write addr bytes

/-- The byte of the last of `done` that wrote at the address; if none did, the byte
that was added. -/
def remembered (done : List Op) (x : Nat) : Option UInt8 :=
  (done.reverse.findSome? (Op.written x)).or (done.findSome? (Op.added x))

/-- A valid snapshot in which each byte is the one that `done` has left there. -/
structure Recalls (s : Snapshot) (done : List Op) : Prop where
  valid : s.Valid
  bytes : ∀ x, s.byteAt x = remembered done x

theorem recalls_empty : empty.Recalls [] := ⟨valid_empty, fun _ => rfl⟩

theorem findSome?_concat (f : Op → Option UInt8) (done : List Op) (op : Op) :
    (done ++ [op]).findSome? f = (done.findSome? f).or (f op) := by
  rw [List.findSome?_append, List.findSome?_singleton]

theorem findSome?_reverse_concat (f : Op → Option UInt8) (done : List Op) (op : Op) :
    (done ++ [op]).reverse.findSome? f = (f op).or (done.reverse.findSome? f) := by
  rw [List.reverse_append, List.findSome?_append]
  show ([op].findSome? f).or _ = _
  rw [List.findSome?_singleton]

/-- An operation that succeeds is remembered. -/
theorem Recalls.apply {done : List Op} {op : Op} (h : s.Recalls done)
    (happly : s.apply op = .ok t) : t.Recalls (done ++ [op]) := by
  cases op with
  | add start bytes =>
    refine ⟨h.valid.add happly, ?_⟩
    intro x
    rw [byteAt_add h.valid happly, h.bytes, remembered, remembered, findSome?_concat,
      findSome?_reverse_concat]
    show (Region.byteAt ⟨start, bytes⟩ x).or ((_ : Option UInt8).or _) =
      (none.or (_ : Option UInt8)).or ((_ : Option UInt8).or (Region.byteAt ⟨start, bytes⟩ x))
    cases hb : Region.byteAt ⟨start, bytes⟩ x with
    | none => rw [Option.none_or, Option.none_or, Option.or_none]
    | some b =>
      -- What is added was not mapped before, so nothing else is remembered there.
      have hnone : remembered done x = none := by
        rw [← h.bytes]
        by_cases hne : bytes = []
        · subst hne
          unfold Region.byteAt at hb
          split at hb <;> cases hb
        · obtain ⟨-, hfree, -⟩ := (add_eq_ok_iff h.valid hne).mp happly
          exact byteAt_eq_none_of_free hfree hb
      obtain ⟨hwritten, hadded⟩ := Option.or_eq_none_iff.mp hnone
      rw [hwritten, hadded]
      rfl
  | write addr bytes =>
    refine ⟨h.valid.write happly, ?_⟩
    intro x
    rw [byteAt_write h.valid happly, h.bytes, remembered, remembered, findSome?_concat,
      findSome?_reverse_concat]
    show (Region.byteAt ⟨addr, bytes⟩ x).or ((_ : Option UInt8).or _) =
      ((Region.byteAt ⟨addr, bytes⟩ x).or (_ : Option UInt8)).or ((_ : Option UInt8).or none)
    rw [Option.or_none, Option.or_assoc]

/-! ## Any operations -/

/-- The snapshot after an operation, which may have failed. -/
def step (s : Snapshot) (op : Op) : Snapshot :=
  match s.apply op with
  | .ok t => t
  | .error _ => s

def run (ops : List Op) : Snapshot := ops.foldl step empty

/-- Those of the operations that succeed. -/
def successes : (s : Snapshot) → List Op → List Op
  | _, [] => []
  | s, op :: ops =>
    match s.apply op with
    | .ok t => op :: successes t ops
    | .error _ => successes s ops

/-- The invariant of a run: what has succeeded is remembered, and nothing else. -/
theorem recalls_foldl (ops : List Op) : ∀ (s : Snapshot) (done : List Op), s.Recalls done →
    (ops.foldl step s).Recalls (done ++ successes s ops) := by
  induction ops with
  | nil =>
    intro s done h
    rw [successes, List.append_nil]
    exact h
  | cons op ops ih =>
    intro s done h
    rw [List.foldl_cons, step, successes]
    cases happly : s.apply op with
    | ok t =>
      have hrest := ih t (done ++ [op]) (h.apply happly)
      rwa [List.append_assoc] at hrest
    | error fault => exact ih s done h

/-- By induction on the operations, a snapshot recalls all that succeeded. -/
theorem recalls_run (ops : List Op) : (run ops).Recalls (successes empty ops) :=
  recalls_foldl ops empty [] recalls_empty

/-- An operation that fails might as well not have been there. -/
theorem run_of_failure {before after : List Op} {op : Op} {fault : Fault}
    (h : (run before).apply op = .error fault) :
    run (before ++ op :: after) = run (before ++ after) := by
  unfold run at *
  rw [List.foldl_append, List.foldl_append, List.foldl_cons, step, h]

/-- **Snapshots refine a map of bytes.** After any additions and writes:

1. no region is empty, each ends at an address, and no two have an address in
   common;
2. bytes can be added exactly where they end at an address and nothing is mapped;
3. bytes can be read and written exactly where one region has all of them, and
   otherwise memory is at fault;
4. a read gives the bytes written last, or else those that were added;
5. an operation that fails leaves no trace;
6. `mappedBytes` counts the addresses that can be read, each once. -/
theorem run_refines (ops : List Op) :
    ((∀ r ∈ (run ops).regions, r.bytes ≠ [] ∧ r.stop ≤ 2 ^ 64 - 1) ∧
      (run ops).regions.Pairwise Region.Apart) ∧
    (∀ start bytes, bytes ≠ [] →
      ((∃ t, (run ops).add start bytes = .ok t) ↔
        start + bytes.length ≤ 2 ^ 64 - 1 ∧
          ∀ r ∈ (run ops).regions, Region.Apart ⟨start, bytes⟩ r)) ∧
    ((∀ addr len, 1 ≤ len →
      ((∃ bytes, (run ops).read addr len = .ok bytes) ↔ (run ops).Holds addr len) ∧
      (¬ (run ops).Holds addr len →
        ∃ fault, (run ops).read addr len = .error fault ∧ fault.code = .processState)) ∧
    (∀ addr bytes, bytes ≠ [] →
      ((∃ t, (run ops).write addr bytes = .ok t) ↔ (run ops).Holds addr bytes.length) ∧
      (¬ (run ops).Holds addr bytes.length →
        ∃ fault, (run ops).write addr bytes = .error fault ∧ fault.code = .processState))) ∧
    (∀ addr len bytes, (run ops).read addr len = .ok bytes → ∀ i (hi : i < bytes.length),
      remembered (successes empty ops) (addr + i) = some bytes[i]) ∧
    (∀ op fault later, (run ops).apply op = .error fault →
      run (ops ++ op :: later) = run (ops ++ later)) ∧
    ((run ops).addresses.Nodup ∧
      (∀ addr, addr ∈ (run ops).addresses ↔ ∃ bytes, (run ops).read addr 1 = .ok bytes) ∧
      (run ops).mappedBytes = (run ops).addresses.length ∧ (run ops).mappedBytes ≤ 2 ^ 64 - 1) := by
  obtain ⟨hvalid, hbytes⟩ := recalls_run ops
  refine ⟨⟨?_, ?_⟩, ?_, ⟨?_, ?_⟩, ?_, ?_, ?_⟩
  · intro r hr
    exact ⟨hvalid.nonempty r hr, Nat.le_sub_one_of_lt (hvalid.bounded r hr)⟩
  · exact hvalid.apart.imp fun hle => Or.inr hle
  · intro start bytes hne
    rw [Nat.le_sub_one_iff_lt (by decide)]
    constructor
    · rintro ⟨t, hadd⟩
      obtain ⟨hfits, hfree, -⟩ := (add_eq_ok_iff hvalid hne).mp hadd
      exact ⟨hfits, hfree⟩
    · rintro ⟨hfits, hfree⟩
      exact ⟨_, (add_eq_ok_iff hvalid hne).mpr ⟨hfits, hfree, rfl⟩⟩
  · intro addr len hlen
    exact ⟨exists_read_iff hvalid hlen, read_of_not_holds hlen⟩
  · intro addr bytes hne
    exact ⟨exists_write_iff hvalid hne, write_of_not_holds⟩
  · intro addr len bytes hread i hi
    rw [length_of_read hread] at hi
    rw [← hbytes, ← getElem?_of_read hvalid hread hi, List.getElem?_eq_getElem]
  · intro op fault later hfault
    exact run_of_failure hfault
  · exact ⟨nodup_addresses hvalid, fun addr => mem_addresses hvalid,
      (length_addresses (run ops)).symm, Nat.le_sub_one_of_lt (mappedBytes_lt hvalid)⟩

/-- A region that overlaps and a write that leaves the region fail; the read gives
what the others have left. -/
theorem run_refines_overlap :
    (run [.add 0x10 [1, 2, 3], .add 0x12 [9], .write 0x11 [7], .write 0x12 [5, 6]]).read 0x10 3 =
        .ok [1, 7, 3] ∧
      successes empty [.add 0x10 [1, 2, 3], .add 0x12 [9], .write 0x11 [7], .write 0x12 [5, 6]] =
        [.add 0x10 [1, 2, 3], .write 0x11 [7]] ∧
      remembered [.add 0x10 [1, 2, 3], .write 0x11 [7]] 0x11 = some 7 :=
  ⟨rfl, rfl, (run_refines
    [.add 0x10 [1, 2, 3], .add 0x12 [9], .write 0x11 [7], .write 0x12 [5, 6]]).2.2.2.1
    0x10 3 [1, 7, 3] rfl 1 (by decide)⟩

end Snapshot

end HeapLens
