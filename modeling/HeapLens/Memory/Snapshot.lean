import HeapLens.Memory.Basic

/-!
# Snapshots: memory captured ahead of time

A snapshot holds regions that do not overlap: parts of a dump, or a heap put
together by hand. A read has to lie within one region, even where two of them touch.
The regions are kept in descending order of their addresses, so that the first one
that begins at or below an address is the only one that can hold it.
-/

namespace HeapLens

/-- Bytes at consecutive addresses. -/
structure Region where
  start : Nat
  bytes : List UInt8
  deriving DecidableEq, Repr

namespace Region

/-- The first address behind the region. -/
def stop (r : Region) : Nat := r.start + r.bytes.length

/-- The region with `bytes` put over what it holds from `offset` on. -/
def overwrite (r : Region) (offset : Nat) (bytes : List UInt8) : Region :=
  { r with bytes := r.bytes.take offset ++ bytes ++ r.bytes.drop (offset + bytes.length) }

end Region

/-- Regions of memory, highest first. -/
structure Snapshot where
  regions : List Region := []
  deriving DecidableEq, Repr

namespace Snapshot

def empty : Snapshot := {}

/-- The highest region that begins at or below `addr`. -/
def nearest? (s : Snapshot) (addr : Nat) : Option Region :=
  s.regions.find? fun r => decide (r.start ≤ addr)

/-- `len` bytes from `addr` on, out of one region. Reading nothing succeeds
everywhere. -/
def read (s : Snapshot) (addr len : Nat) : Except Fault (List UInt8) :=
  if len = 0 then .ok []
  else
    match s.nearest? addr with
    | none => .error (.badAddress addr)
    | some r =>
      let offset := addr - r.start
      if offset + len ≤ r.bytes.length then .ok ((r.bytes.drop offset).take len)
      else if offset < r.bytes.length then .error (.truncatedRead addr len)
      else .error (.badAddress addr)

/-- `regions` with one more, put before the first that begins at or below it. -/
def place (region : Region) : List Region → List Region
  | [] => [region]
  | r :: rest => if r.start ≤ region.start then region :: r :: rest else r :: place region rest

/-- Maps `bytes` from `start` on. Mapping nothing changes nothing; the new region
has to end at an address and may not overlap another. -/
def add (s : Snapshot) (start : Nat) (bytes : List UInt8) : Except Fault Snapshot :=
  let region : Region := ⟨start, bytes⟩
  if bytes.isEmpty then .ok s
  else if addressLimit ≤ region.stop then .error (.regionOverflow start bytes.length)
  else
    match s.nearest? (region.stop - 1) with
    | none => .ok ⟨place region s.regions⟩
    | some r =>
      if start < r.stop then .error (.regionOverlap start region.stop r.start r.stop)
      else .ok ⟨place region s.regions⟩

/-- `regions` with `bytes` written at `addr` into the first that begins at or below
it. -/
def overwriteIn (addr : Nat) (bytes : List UInt8) : List Region → Except Fault (List Region)
  | [] => .error (.badAddress addr)
  | r :: rest =>
    if r.start ≤ addr then
      if addr - r.start + bytes.length ≤ r.bytes.length then
        .ok (r.overwrite (addr - r.start) bytes :: rest)
      else .error (.badAddress addr)
    else (overwriteIn addr bytes rest).map (r :: ·)

/-- Writes `bytes` at `addr`, within one region. -/
def write (s : Snapshot) (addr : Nat) (bytes : List UInt8) : Except Fault Snapshot :=
  (overwriteIn addr bytes s.regions).map Snapshot.mk

def mappedBytes (s : Snapshot) : Nat := s.regions.foldr (fun r count => r.bytes.length + count) 0

/-- A read that is answered is answered in full. -/
theorem length_of_read {s : Snapshot} {addr len : Nat} {bytes : List UInt8}
    (h : s.read addr len = .ok bytes) : bytes.length = len := by
  unfold read at h
  split at h
  · cases h; simp [*]
  · split at h
    · cases h
    · simp only at h
      split at h
      · cases h
        simp only [List.length_take, List.length_drop]
        omega
      · split at h <;> cases h

def memory (s : Snapshot) : Memory := ⟨s.read, length_of_read⟩

/-- The invariant of a snapshot: no region is empty, each ends at an address, and
each lies behind those that follow it. -/
structure Valid (s : Snapshot) : Prop where
  nonempty : ∀ r ∈ s.regions, r.bytes ≠ []
  bounded : ∀ r ∈ s.regions, r.stop < addressLimit
  apart : s.regions.Pairwise fun high low => low.stop ≤ high.start

theorem valid_empty : empty.Valid := ⟨by simp [empty], by simp [empty], by simp [empty]⟩

end Snapshot

end HeapLens
