import HeapLens.Memory.Snapshot
import Mathlib.Data.List.Nodup
import Mathlib.Data.List.Pairwise

/-!
# Snapshots: one region is looked at, all are known

`add`, `read` and `write` look at a single region of a snapshot, the highest one
that begins early enough. That this decides what all regions decide rests on
`Snapshot.Valid`: the regions lie apart, in descending order, so that a region that
holds an address is the first that begins at or below it (`nearest?_of_covers`).

> `exists_read_iff`, `exists_write_iff`, `add_eq_ok_iff`: what succeeds is what the
> regions allow.
> `read_of_not_holds`, `write_of_not_holds`: all else fails in the same way.

`Valid` is kept by whatever succeeds (`Valid.add`, `Valid.write`).
-/

namespace HeapLens

namespace Region

/-- All of the `len` addresses from `addr` on are in the region. -/
def Covers (r : Region) (addr len : Nat) : Prop := r.start ≤ addr ∧ addr + len ≤ r.stop

/-- No address is in both regions. -/
def Apart (r q : Region) : Prop := r.stop ≤ q.start ∨ q.stop ≤ r.start

instance : Std.Symm Apart := ⟨fun _ _ h => Or.symm h⟩

theorem start_lt_stop {r : Region} (h : r.bytes ≠ []) : r.start < r.stop := by
  have hlen := List.length_pos_iff.mpr h
  unfold stop
  omega

/-- Overwriting changes neither where a region begins nor where it ends. -/
theorem length_overwrite {r : Region} {offset : Nat} {bytes : List UInt8}
    (h : offset + bytes.length ≤ r.bytes.length) :
    (r.overwrite offset bytes).bytes.length = r.bytes.length := by
  unfold overwrite
  rw [List.length_append, List.length_append, List.length_take, List.length_drop]
  omega

end Region

namespace Snapshot

variable {s t : Snapshot} {addr len start : Nat} {bytes : List UInt8}

/-- Some region has all of the `len` addresses from `addr` on. -/
def Holds (s : Snapshot) (addr len : Nat) : Prop := ∃ r ∈ s.regions, r.Covers addr len

/-! ## The nearest region -/

/-- The nearest region is one of the snapshot's and begins early enough. -/
theorem mem_of_nearest? {q : Region} (h : s.nearest? addr = some q) :
    q ∈ s.regions ∧ q.start ≤ addr :=
  ⟨List.mem_of_find?_eq_some h, by simpa using List.find?_some h⟩

theorem exists_nearest? {r : Region} (hr : r ∈ s.regions) (hlo : r.start ≤ addr) :
    ∃ q, s.nearest? addr = some q := by
  refine Option.isSome_iff_exists.mp ?_
  rw [nearest?, List.find?_isSome]
  exact ⟨r, hr, decide_eq_true hlo⟩

/-- The others that begin at or below the address lie below the nearest region. -/
theorem eq_or_below_nearest? (h : s.Valid) {q r : Region} (hq : s.nearest? addr = some q)
    (hr : r ∈ s.regions) (hlo : r.start ≤ addr) : r = q ∨ r.stop ≤ q.start := by
  obtain ⟨-, upper, lower, hsplit, hupper⟩ := List.find?_eq_some_iff_append.mp hq
  have happart := h.apart
  rw [hsplit, List.pairwise_append, List.pairwise_cons] at happart
  rw [hsplit, List.mem_append, List.mem_cons] at hr
  -- Those above the nearest region begin behind the address; those below it end
  -- before it begins.
  rcases hr with hr | hr | hr
  · have := hupper r hr
    simp only [Bool.not_eq_true', decide_eq_false_iff_not] at this
    exact absurd hlo this
  · exact Or.inl hr
  · exact Or.inr (happart.2.1.1 r hr)

/-- A region that holds an address is the nearest to it. -/
theorem nearest?_of_covers (h : s.Valid) {r : Region} (hr : r ∈ s.regions) (hlen : 1 ≤ len)
    (hcovers : r.Covers addr len) : s.nearest? addr = some r := by
  obtain ⟨hlo, hhi⟩ := hcovers
  obtain ⟨q, hq⟩ := exists_nearest? hr hlo
  obtain ⟨-, hqlo⟩ := mem_of_nearest? hq
  rcases eq_or_below_nearest? h hq hr hlo with rfl | hbelow
  · exact hq
  · omega

/-! ## Reading -/

/-- A region that has all of the addresses answers with its bytes there. -/
theorem read_of_covers (h : s.Valid) {r : Region} (hr : r ∈ s.regions) (hlen : 1 ≤ len)
    (hcovers : r.Covers addr len) :
    s.read addr len = .ok ((r.bytes.drop (addr - r.start)).take len) := by
  have hnearest := nearest?_of_covers h hr hlen hcovers
  obtain ⟨hlo, hhi⟩ := hcovers
  unfold Region.stop at hhi
  unfold read
  rw [if_neg (by omega), hnearest]
  dsimp only
  rw [if_pos (by omega)]

/-- What no region holds cannot be read. -/
theorem read_of_not_holds (hlen : 1 ≤ len) (h : ¬ s.Holds addr len) :
    ∃ fault, s.read addr len = .error fault ∧ fault.code = .processState := by
  unfold read
  rw [if_neg (by omega)]
  cases hnearest : s.nearest? addr with
  | none => exact ⟨.badAddress addr, rfl, rfl⟩
  | some r =>
    -- The nearest region begins early enough, so it has to end too early.
    obtain ⟨hr, hlo⟩ := mem_of_nearest? hnearest
    have hout : ¬ addr - r.start + len ≤ r.bytes.length := by
      intro hin
      refine h ⟨r, hr, hlo, ?_⟩
      unfold Region.stop
      omega
    dsimp only
    rw [if_neg hout]
    by_cases hinside : addr - r.start < r.bytes.length
    · rw [if_pos hinside]
      exact ⟨.truncatedRead addr len, rfl, rfl⟩
    · rw [if_neg hinside]
      exact ⟨.badAddress addr, rfl, rfl⟩

/-- Bytes can be read exactly if one region has them all. -/
theorem exists_read_iff (h : s.Valid) (hlen : 1 ≤ len) :
    (∃ bytes, s.read addr len = .ok bytes) ↔ s.Holds addr len := by
  constructor
  · rintro ⟨bytes, hread⟩
    by_contra hnot
    obtain ⟨fault, hfault, -⟩ := read_of_not_holds hlen hnot
    rw [hread] at hfault
    cases hfault
  · rintro ⟨r, hr, hcovers⟩
    exact ⟨_, read_of_covers h hr hlen hcovers⟩

/-! ## Writing -/

/-- Regions that begin above the address are passed over. -/
theorem overwriteIn_append {upper : List Region} (h : ∀ q ∈ upper, ¬ q.start ≤ addr)
    (rest : List Region) :
    overwriteIn addr bytes (upper ++ rest) = (overwriteIn addr bytes rest).map (upper ++ ·) := by
  induction upper with
  | nil => cases hrest : overwriteIn addr bytes rest <;> simp [hrest, Except.map]
  | cons q upper ih =>
    rw [List.cons_append, overwriteIn, if_neg (h q (List.mem_cons_self ..)),
      ih fun r hr => h r (List.mem_cons_of_mem _ hr)]
    cases overwriteIn addr bytes rest <;> rfl

/-- What a write does: the nearest region is overwritten, if it has the addresses,
and all others stay. -/
theorem write_of_nearest? {r : Region} (h : s.nearest? addr = some r) (bytes : List UInt8) :
    ∃ upper lower, s.regions = upper ++ r :: lower ∧
      s.write addr bytes =
        if addr - r.start + bytes.length ≤ r.bytes.length then
          .ok ⟨upper ++ r.overwrite (addr - r.start) bytes :: lower⟩
        else .error (.badAddress addr) := by
  obtain ⟨hlo, upper, lower, hsplit, hupper⟩ := List.find?_eq_some_iff_append.mp h
  refine ⟨upper, lower, hsplit, ?_⟩
  have habove : ∀ q ∈ upper, ¬ q.start ≤ addr := fun q hq => by simpa using hupper q hq
  unfold write
  rw [hsplit, overwriteIn_append habove, overwriteIn, if_pos (by simpa using hlo)]
  split <;> rfl

/-- Below the first region nothing can be written. -/
theorem write_of_nearest?_eq_none (h : s.nearest? addr = none) (bytes : List UInt8) :
    s.write addr bytes = .error (.badAddress addr) := by
  have habove : ∀ q ∈ s.regions, ¬ q.start ≤ addr := by
    simpa [nearest?] using h
  have hall : overwriteIn addr bytes (s.regions ++ []) = _ := overwriteIn_append habove []
  rw [List.append_nil] at hall
  unfold write
  rw [hall]
  rfl

/-- A write that succeeds has overwritten a region that has the addresses. -/
theorem eq_of_write (h : s.write addr bytes = .ok t) :
    ∃ upper r lower, s.regions = upper ++ r :: lower ∧
      t.regions = upper ++ r.overwrite (addr - r.start) bytes :: lower ∧
      r.Covers addr bytes.length := by
  cases hnearest : s.nearest? addr with
  | none =>
    rw [write_of_nearest?_eq_none hnearest] at h
    cases h
  | some r =>
    obtain ⟨-, hlo⟩ := mem_of_nearest? hnearest
    obtain ⟨upper, lower, hsplit, hwrite⟩ := write_of_nearest? hnearest bytes
    rw [hwrite] at h
    split at h
    · next hin =>
      cases h
      refine ⟨upper, r, lower, hsplit, rfl, hlo, ?_⟩
      unfold Region.stop
      omega
    · cases h

/-- What no region holds cannot be written. -/
theorem write_of_not_holds (h : ¬ s.Holds addr bytes.length) :
    ∃ fault, s.write addr bytes = .error fault ∧ fault.code = .processState := by
  refine ⟨.badAddress addr, ?_, rfl⟩
  cases hnearest : s.nearest? addr with
  | none => exact write_of_nearest?_eq_none hnearest bytes
  | some r =>
    obtain ⟨hr, hlo⟩ := mem_of_nearest? hnearest
    obtain ⟨upper, lower, -, hwrite⟩ := write_of_nearest? hnearest bytes
    rw [hwrite, if_neg]
    intro hin
    refine h ⟨r, hr, hlo, ?_⟩
    unfold Region.stop
    omega

/-- Where one region has all of the addresses they can be written to. -/
theorem exists_write_of_holds (h : s.Valid) (hne : bytes ≠ [])
    (hholds : s.Holds addr bytes.length) : ∃ t, s.write addr bytes = .ok t := by
  obtain ⟨r, hr, hcovers⟩ := hholds
  have hlen : 1 ≤ bytes.length := List.length_pos_iff.mpr hne
  have hnearest := nearest?_of_covers h hr hlen hcovers
  obtain ⟨upper, lower, -, hwrite⟩ := write_of_nearest? hnearest bytes
  obtain ⟨hlo, hhi⟩ := hcovers
  unfold Region.stop at hhi
  rw [hwrite, if_pos (by omega)]
  exact ⟨_, rfl⟩

/-- Bytes can be written exactly where they can be read. -/
theorem exists_write_iff (h : s.Valid) (hne : bytes ≠ []) :
    (∃ t, s.write addr bytes = .ok t) ↔ s.Holds addr bytes.length := by
  constructor
  · rintro ⟨t, hwrite⟩
    by_contra hnot
    obtain ⟨fault, hfault, -⟩ := write_of_not_holds hnot
    rw [hwrite] at hfault
    cases hfault
  · exact exists_write_of_holds h hne

/-- A write moves no region, so the snapshot stays valid. -/
theorem Valid.write (h : s.Valid) (hwrite : s.write addr bytes = .ok t) : t.Valid := by
  obtain ⟨upper, r, lower, hsplit, hnew, hlo, hhi⟩ := eq_of_write hwrite
  unfold Region.stop at hhi
  have hlen : (r.overwrite (addr - r.start) bytes).bytes.length = r.bytes.length :=
    Region.length_overwrite (by omega)
  have hstop : (r.overwrite (addr - r.start) bytes).stop = r.stop := by
    show r.start + _ = r.start + _
    rw [hlen]
  obtain ⟨hnonempty, hbounded, happart⟩ := h
  rw [hsplit] at hnonempty hbounded happart
  refine ⟨?_, ?_, ?_⟩
  · rw [hnew, List.forall_mem_append, List.forall_mem_cons]
    rw [List.forall_mem_append, List.forall_mem_cons] at hnonempty
    refine ⟨hnonempty.1, ?_, hnonempty.2.2⟩
    rw [← List.length_pos_iff, hlen, List.length_pos_iff]
    exact hnonempty.2.1
  · rw [hnew, List.forall_mem_append, List.forall_mem_cons, hstop]
    rwa [List.forall_mem_append, List.forall_mem_cons] at hbounded
  · rw [hnew, List.pairwise_append, List.pairwise_cons]
    rw [List.pairwise_append, List.pairwise_cons] at happart
    obtain ⟨hupper, ⟨hr, hlower⟩, hcross⟩ := happart
    refine ⟨hupper, ⟨hr, hlower⟩, ?_⟩
    intro high hhigh
    have hall := hcross high hhigh
    rw [List.forall_mem_cons] at hall ⊢
    exact ⟨hstop ▸ hall.1, hall.2⟩

/-! ## Adding -/

/-- The addresses that would be mapped are in no region yet. -/
def Free (s : Snapshot) (region : Region) : Prop := ∀ r ∈ s.regions, region.Apart r

theorem mem_place {region q : Region} {regions : List Region} :
    q ∈ place region regions ↔ q = region ∨ q ∈ regions := by
  induction regions with
  | nil => simp [place]
  | cons r rest ih =>
    rw [place]
    split
    · exact List.mem_cons
    · rw [List.mem_cons, ih, List.mem_cons]
      tauto

/-- A new region finds its place among those in descending order. -/
theorem pairwise_place {region : Region} (hregion : region.bytes ≠ []) {regions : List Region}
    (h : regions.Pairwise fun high low => low.stop ≤ high.start)
    (hfree : ∀ r ∈ regions, region.Apart r) :
    (place region regions).Pairwise fun high low => low.stop ≤ high.start := by
  have hlt := Region.start_lt_stop hregion
  induction regions with
  | nil => exact List.pairwise_singleton _ _
  | cons high rest ih =>
    obtain ⟨hbelow, hrest⟩ := List.pairwise_cons.mp h
    have hhigh := hfree high (List.mem_cons_self ..)
    have hstart : high.start ≤ high.stop := Nat.le_add_right _ _
    rw [place]
    split
    · next hle =>
      -- The new region is the highest, and lies above the one that was.
      have habove : high.stop ≤ region.start := by
        rcases hhigh with hgt | hge
        · omega
        · exact hge
      refine List.pairwise_cons.mpr ⟨?_, h⟩
      intro low hlow
      rcases List.mem_cons.mp hlow with rfl | hlow
      · exact habove
      · have := hbelow low hlow
        omega
    · next hgt =>
      refine List.pairwise_cons.mpr ⟨?_, ih hrest fun r hr => hfree r (List.mem_cons_of_mem _ hr)⟩
      intro low hlow
      rcases mem_place.mp hlow with rfl | hlow
      · rcases hhigh with hle | hge
        · exact hle
        · omega
      · exact hbelow low hlow

/-- The region that `add` looks at lies below the new one exactly if all do that are
not above it. -/
theorem free_iff_nearest? (h : s.Valid) {region : Region} (hregion : region.bytes ≠ []) :
    s.Free region ↔ ∀ r, s.nearest? (region.stop - 1) = some r → r.stop ≤ region.start := by
  have hlt := Region.start_lt_stop hregion
  constructor
  · intro hfree r hnearest
    obtain ⟨hr, hlo⟩ := mem_of_nearest? hnearest
    rcases hfree r hr with hle | hge
    · omega
    · exact hge
  · intro hbelow r hr
    by_cases hlo : r.start ≤ region.stop - 1
    · right
      obtain ⟨q, hq⟩ := exists_nearest? hr hlo
      have hstop := hbelow q hq
      have hstart : q.start ≤ q.stop := Nat.le_add_right _ _
      rcases eq_or_below_nearest? h hq hr hlo with rfl | hlower
      · exact hstop
      · omega
    · left
      omega

/-- What an addition of some bytes does, and when it does it. -/
theorem add_eq_ok_iff (h : s.Valid) (hne : bytes ≠ []) :
    s.add start bytes = .ok t ↔
      start + bytes.length < addressLimit ∧ s.Free ⟨start, bytes⟩ ∧
        t = ⟨place ⟨start, bytes⟩ s.regions⟩ := by
  have hempty : bytes.isEmpty = false := by simpa using hne
  rw [free_iff_nearest? h hne]
  unfold add
  dsimp only
  rw [if_neg (by rw [hempty]; exact Bool.false_ne_true)]
  show (if addressLimit ≤ start + bytes.length then _ else _) = _ ↔ _
  -- The three outcomes of `add`: too high, no region near enough to look at, and
  -- one to look at.
  by_cases hfits : start + bytes.length < addressLimit
  · rw [if_neg (Nat.not_le_of_lt hfits)]
    cases hnearest : s.nearest? (Region.stop ⟨start, bytes⟩ - 1) with
    | none =>
      constructor
      · intro heq
        cases heq
        refine ⟨hfits, ?_, rfl⟩
        intro r hr
        cases hr
      · rintro ⟨-, -, rfl⟩
        rfl
    | some r =>
      dsimp only
      by_cases hover : start < r.stop
      · rw [if_pos hover]
        constructor
        · intro heq
          cases heq
        · rintro ⟨-, hbelow, -⟩
          exact absurd (hbelow r rfl) (Nat.not_le_of_lt hover)
      · rw [if_neg hover]
        constructor
        · intro heq
          cases heq
          refine ⟨hfits, ?_, rfl⟩
          intro q hq
          cases hq
          exact Nat.le_of_not_lt hover
        · rintro ⟨-, -, rfl⟩
          rfl
  · rw [if_pos (Nat.le_of_not_lt hfits)]
    constructor
    · intro heq
      cases heq
    · rintro ⟨hlt, -⟩
      exact absurd hlt hfits

/-- A region without bytes is not kept. -/
theorem add_nil (s : Snapshot) (start : Nat) : s.add start [] = .ok s := rfl

/-- A region is added to those that are there, apart from them, so the snapshot
stays valid. -/
theorem Valid.add (h : s.Valid) (hadd : s.add start bytes = .ok t) : t.Valid := by
  by_cases hne : bytes = []
  · subst hne
    rw [add_nil] at hadd
    cases hadd
    exact h
  · obtain ⟨hfits, hfree, rfl⟩ := (add_eq_ok_iff h hne).mp hadd
    refine ⟨?_, ?_, pairwise_place hne h.apart hfree⟩
    · intro r hr
      rcases mem_place.mp hr with rfl | hr
      · exact hne
      · exact h.nonempty r hr
    · intro r hr
      rcases mem_place.mp hr with rfl | hr
      · exact hfits
      · exact h.bounded r hr

/-! ## Counting -/

def addresses (s : Snapshot) : List Nat :=
  s.regions.flatMap fun r => List.range' r.start r.bytes.length

/-- The mapped addresses are those at which a byte can be read. -/
theorem mem_addresses (h : s.Valid) : addr ∈ s.addresses ↔ ∃ bytes, s.read addr 1 = .ok bytes := by
  rw [exists_read_iff h (Nat.le_refl 1), addresses, List.mem_flatMap]
  constructor
  · rintro ⟨r, hr, hmem⟩
    exact ⟨r, hr, List.mem_range'_1.mp hmem⟩
  · rintro ⟨r, hr, hcovers⟩
    exact ⟨r, hr, List.mem_range'_1.mpr hcovers⟩

/-- No address is mapped twice. -/
theorem nodup_addresses (h : s.Valid) : s.addresses.Nodup := by
  refine List.nodup_flatMap.mpr ⟨fun r _ => List.nodup_range', ?_⟩
  refine h.apart.imp ?_
  intro high low hbelow x hhigh hlow
  rw [List.mem_range'_1] at hhigh hlow
  unfold Region.stop at hbelow
  omega

/-- Each mapped byte has an address of its own. -/
theorem length_addresses (s : Snapshot) : s.addresses.length = s.mappedBytes := by
  unfold addresses mappedBytes
  induction s.regions with
  | nil => rfl
  | cons r rest ih =>
    rw [List.flatMap_cons, List.length_append, List.length_range', ih]
    rfl

/-- Below the end of the highest region there is room for all. -/
theorem mappedBytes_lt (h : s.Valid) : s.mappedBytes < addressLimit := by
  have hsum : ∀ (regions : List Region) (top : Nat),
      regions.Pairwise (fun high low => low.stop ≤ high.start) → (∀ r ∈ regions, r.stop ≤ top) →
      regions.foldr (fun r count => r.bytes.length + count) 0 ≤ top := by
    intro regions
    induction regions with
    | nil =>
      intro top _ _
      exact Nat.zero_le top
    | cons high rest ih =>
      intro top happart htop
      obtain ⟨hbelow, hrest⟩ := List.pairwise_cons.mp happart
      have hlower := ih high.start hrest hbelow
      have hhigh := htop high (List.mem_cons_self ..)
      unfold Region.stop at hhigh
      rw [List.foldr_cons]
      omega
  have htop : ∀ r ∈ s.regions, r.stop ≤ addressLimit - 1 := by
    intro r hr
    exact Nat.le_sub_one_of_lt (h.bounded r hr)
  have hle := hsum s.regions (addressLimit - 1) h.apart htop
  exact Nat.lt_of_le_of_lt hle (by decide)

end Snapshot

end HeapLens
