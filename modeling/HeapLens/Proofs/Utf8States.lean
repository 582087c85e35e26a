import HeapLens.Text.Utf8
import Mathlib

/-!
# What a state of the UTF-8 reader stands for

A `Sequence` that has begun keeps bits and bounds and forgets the bytes. Here these
are brought back:

> `After w s`: the characters whose bytes begin with `w` are those of the width that
> `s` expects, with the bits that `s` has; and the next byte of each of them is
> between the bounds of `s`.

It holds behind each first byte (`leads_lead`) and goes along with each byte between
the bounds (`After.extend`, `After.eq_utf8EncodeChar`). So a byte is admitted
exactly if some character goes on with it (`After.begins_concat_iff`): the bounds
exclude overlong forms, surrogates and what is above the last code point, and
nothing else.
-/

namespace HeapLens.Text.Utf8

/-- The bytes of some character begin with `w`. -/
def Begins (w : List UInt8) : Prop := ∃ c, w <+: String.utf8EncodeChar c

/-! ## The bytes of a character -/

/-- How many bytes the character with number `v` has. -/
def width (v : Nat) : Nat :=
  if v ≤ 0x7F then 1 else if v ≤ 0x7FF then 2 else if v ≤ 0xFFFF then 3 else 4

def firstByte (v : Nat) : Nat :=
  if v ≤ 0x7F then v
  else if v ≤ 0x7FF then v / 0x40 + 0xC0
  else if v ≤ 0xFFFF then v / 0x1000 + 0xE0
  else v / 0x40000 + 0xF0

/-- The last `n` bytes of the character with number `v`: six bits each, highest
first. -/
def laterBytes (v : Nat) : (n : Nat) → List UInt8
  | 0 => []
  | n + 1 => UInt8.ofNat (v / Nat.pow 64 n % 64 + 0x80) :: laterBytes v n

/-- The first byte tells the width, and has the bits above the six of each later
byte. -/
theorem width_firstByte (v : Nat) :
    v ≤ 0x7F ∧ width v = 1 ∧ firstByte v = v ∨
    0x7F < v ∧ v ≤ 0x7FF ∧ width v = 2 ∧ firstByte v = v / 0x40 + 0xC0 ∨
    0x7FF < v ∧ v ≤ 0xFFFF ∧ width v = 3 ∧ firstByte v = v / 0x1000 + 0xE0 ∨
    0xFFFF < v ∧ width v = 4 ∧ firstByte v = v / 0x40000 + 0xF0 := by
  unfold width firstByte
  split_ifs <;> omega

/-- How many bytes a character takes is a matter of its number. -/
theorem utf8Size_eq_width (c : Char) : c.utf8Size = width c.toNat := by
  unfold Char.utf8Size width
  simp only [UInt32.le_iff_toNat_le]
  rfl

/-- A character is encoded as a first byte, and later ones of six bits each. -/
theorem utf8EncodeChar_eq (c : Char) :
    String.utf8EncodeChar c =
      UInt8.ofNat (firstByte c.toNat) :: laterBytes c.toNat (width c.toNat - 1) := by
  have bound : c.toNat ≤ 0x10FFFF := c.toNat_le_max
  have two : Nat.pow 64 2 = 4096 := rfl
  have one : Nat.pow 64 1 = 64 := rfl
  have zero : Nat.pow 64 0 = 1 := rfl
  unfold String.utf8EncodeChar firstByte width
  -- The bits of the first byte are cut off by a remainder there, which changes
  -- nothing.
  change (if c.toNat ≤ 127 then [UInt8.ofNat c.toNat] else
    if c.toNat ≤ 2047 then
      [UInt8.ofNat (c.toNat / 64 % 32 + 192), UInt8.ofNat (c.toNat % 64 + 128)] else
    if c.toNat ≤ 65535 then
      [UInt8.ofNat (c.toNat / 4096 % 16 + 224), UInt8.ofNat (c.toNat / 64 % 64 + 128),
        UInt8.ofNat (c.toNat % 64 + 128)] else
      [UInt8.ofNat (c.toNat / 262144 % 8 + 240), UInt8.ofNat (c.toNat / 4096 % 64 + 128),
        UInt8.ofNat (c.toNat / 64 % 64 + 128), UInt8.ofNat (c.toNat % 64 + 128)]) = _
  split_ifs with h1 h2 h3
  · rfl
  · have top : c.toNat / 64 % 32 = c.toNat / 64 := by omega
    simp only [laterBytes, top, zero, Nat.div_one]
  · have top : c.toNat / 4096 % 16 = c.toNat / 4096 := by omega
    simp only [laterBytes, top, one, zero, Nat.div_one]
  · have top : c.toNat / 262144 % 8 = c.toNat / 262144 := by omega
    simp only [laterBytes, top, two, one, zero, Nat.div_one]

/-- Each of the later bytes has six bits of the number, the highest first. -/
theorem getElem?_laterBytes {v n i : Nat} (h : i < n) :
    (laterBytes v n)[i]? = some (UInt8.ofNat (v / Nat.pow 64 (n - 1 - i) % 64 + 0x80)) := by
  induction n generalizing i with
  | zero => omega
  | succ n ih =>
    cases i with
    | zero => rfl
    | succ i =>
      have same : n + 1 - 1 - (i + 1) = n - 1 - i := by omega
      rw [laterBytes, List.getElem?_cons_succ, ih (by omega), same]

/-- What is below the bits that one more byte brings. -/
theorem div_pow_succ (v n : Nat) : v / Nat.pow 64 (n + 1) = v / Nat.pow 64 n / 64 := by
  rw [Nat.div_div_eq_div_mul]
  rfl

/-- A prefix is longer by one byte if that byte is the next one. -/
theorem prefix_concat_iff {w l : List UInt8} {b : UInt8} :
    w ++ [b] <+: l ↔ w <+: l ∧ l[w.length]? = some b := by
  constructor
  · rintro ⟨r, rfl⟩
    exact ⟨⟨b :: r, by simp⟩, by simp⟩
  · rintro ⟨⟨r, rfl⟩, h⟩
    cases r with
    | nil => simp at h
    | cons x r =>
      obtain rfl : x = b := by simpa using h
      exact ⟨r, by simp⟩

/-! ## States and the bytes behind them -/

/-- What the state `s` says of the characters whose bytes begin with `w`. -/
structure After (w : List UInt8) (s : Sequence) : Prop where
  seen : s.seen = w.length
  seen_pos : 1 ≤ s.seen
  begins_iff : ∀ c : Char, w <+: String.utf8EncodeChar c ↔
    c.utf8Size = s.seen + s.later + 1 ∧ c.toNat / Nat.pow 64 (s.later + 1) = s.bits
  tail : ∀ b, s.admits b = true → 0x80 ≤ b.toNat ∧ b.toNat ≤ 0xBF
  /-- With a byte between the bounds the bits are those of characters, of the
  expected width. -/
  complete : ∀ b, s.admits b = true → ∀ v, v / Nat.pow 64 s.later = s.bits * 64 + b.toNat % 64 →
    v.isValidChar ∧ width v = s.seen + s.later + 1
  next : ∀ c : Char, w <+: String.utf8EncodeChar c →
    s.admits (UInt8.ofNat (c.toNat / Nat.pow 64 s.later % 64 + 0x80)) = true
  continued : ∃ b, s.admits b = true

namespace After

variable {w : List UInt8} {s : Sequence} {b : UInt8}

/-- In a state the next byte of a character has the highest six bits that are
left. -/
theorem getElem?_utf8EncodeChar (h : After w s) {c : Char} (hc : w <+: String.utf8EncodeChar c) :
    (String.utf8EncodeChar c)[w.length]? =
      some (UInt8.ofNat (c.toNat / Nat.pow 64 s.later % 64 + 0x80)) := by
  have size := ((h.begins_iff c).mp hc).1
  have pos := h.seen_pos
  have seen := h.seen
  rw [utf8Size_eq_width] at size
  obtain ⟨i, hi⟩ : ∃ i, w.length = i + 1 := ⟨w.length - 1, by omega⟩
  have same : width c.toNat - 1 - 1 - i = s.later := by omega
  rw [utf8EncodeChar_eq, hi, List.getElem?_cons_succ, getElem?_laterBytes (by omega), same]

/-- The next byte of a character is the one that has its next bits. -/
theorem concat_iff (h : After w s) (c : Char) :
    w ++ [b] <+: String.utf8EncodeChar c ↔
      s.admits b = true ∧ c.utf8Size = s.seen + s.later + 1 ∧
        c.toNat / Nat.pow 64 s.later = s.bits * 64 + b.toNat % 64 := by
  have quot := div_pow_succ c.toNat s.later
  rw [prefix_concat_iff]
  constructor
  · rintro ⟨hc, hb⟩
    rw [h.getElem?_utf8EncodeChar hc] at hb
    have hb := Option.some.inj hb
    obtain ⟨size, bits⟩ := (h.begins_iff c).mp hc
    have value : b.toNat = c.toNat / Nat.pow 64 s.later % 64 + 0x80 := by
      rw [← hb, UInt8.toNat_ofNat']
      omega
    refine ⟨hb ▸ h.next c hc, size, ?_⟩
    omega
  · rintro ⟨admits, size, bits⟩
    have tail := h.tail b admits
    have hc : w <+: String.utf8EncodeChar c := (h.begins_iff c).mpr ⟨size, by omega⟩
    refine ⟨hc, ?_⟩
    rw [h.getElem?_utf8EncodeChar hc, Option.some.injEq, ← UInt8.toNat_inj, UInt8.toNat_ofNat']
    omega

/-- A byte is admitted exactly if some character goes on with it. -/
theorem begins_concat_iff (h : After w s) : Begins (w ++ [b]) ↔ s.admits b = true := by
  constructor
  · rintro ⟨c, hc⟩
    exact ((h.concat_iff c).mp hc).1
  · intro admits
    -- The bits that are still missing may all be zero.
    have pos : 0 < Nat.pow 64 s.later := Nat.pow_pos (by omega)
    have whole : (s.bits * 64 + b.toNat % 64) * Nat.pow 64 s.later / Nat.pow 64 s.later =
        s.bits * 64 + b.toNat % 64 := Nat.mul_div_cancel _ pos
    obtain ⟨valid, size⟩ := h.complete b admits _ whole
    refine ⟨Char.ofNat ((s.bits * 64 + b.toNat % 64) * Nat.pow 64 s.later), ?_⟩
    rw [h.concat_iff, utf8Size_eq_width, Char.toNat_ofNat, if_pos valid]
    exact ⟨admits, size, whole⟩

/-- What leads to a state is the beginning of a character. -/
theorem begins (h : After w s) : Begins w := by
  obtain ⟨b, admits⟩ := h.continued
  obtain ⟨c, hc⟩ := h.begins_concat_iff.mpr admits
  exact ⟨c, (List.prefix_append w [b]).trans hc⟩

/-- No character ends here. -/
theorem length_lt (h : After w s) {c : Char} (hc : w <+: String.utf8EncodeChar c) :
    w.length < (String.utf8EncodeChar c).length := by
  rw [String.length_utf8EncodeChar, ((h.begins_iff c).mp hc).1, ← h.seen]
  omega

/-! ## One more byte -/

/-- Where nothing else is asked, any later byte is admitted. -/
theorem admits_later_iff {seen later bits : Nat} :
    Sequence.admits ⟨seen, later, bits, 0x80, 0xBF⟩ b = true ↔
      0x80 ≤ b.toNat ∧ b.toNat ≤ 0xBF := by
  simp [Sequence.admits, UInt8.le_iff_toNat_le]

/-- Behind a byte that is not the last the state is the extended one. -/
theorem extend (h : After w s) (admits : s.admits b = true) {later : Nat}
    (hlater : s.later = later + 1) :
    After (w ++ [b]) ⟨s.seen + 1, later, s.bits * 64 + b.toNat % 64, 0x80, 0xBF⟩ where
  seen := by simp [h.seen]
  seen_pos := by simp
  begins_iff c := by
    rw [h.concat_iff, hlater]
    simp only [admits, true_and]
    omega
  tail x hx := admits_later_iff.mp hx
  complete x hx v hv := by
    have quot := div_pow_succ v later
    have bits : v / Nat.pow 64 later = (s.bits * 64 + b.toNat % 64) * 64 + x.toNat % 64 := hv
    rw [← hlater] at quot
    obtain ⟨valid, size⟩ := h.complete b admits v (by omega)
    refine ⟨valid, ?_⟩
    show width v = s.seen + 1 + later + 1
    omega
  next c _ := by
    rw [admits_later_iff, UInt8.toNat_ofNat']
    omega
  continued := ⟨0x80, admits_later_iff.mpr (by decide)⟩

/-- The last byte completes the character with the bits so far. -/
theorem eq_utf8EncodeChar (h : After w s) (admits : s.admits b = true) (last : s.later = 0) :
    String.utf8EncodeChar (Char.ofNat (s.bits * 64 + b.toNat % 64)) = w ++ [b] := by
  have value : (s.bits * 64 + b.toNat % 64) / Nat.pow 64 s.later =
      s.bits * 64 + b.toNat % 64 := by
    rw [last]
    exact Nat.div_one _
  obtain ⟨valid, size⟩ := h.complete b admits _ value
  have number : (Char.ofNat (s.bits * 64 + b.toNat % 64)).toNat =
      s.bits * 64 + b.toNat % 64 := by rw [Char.toNat_ofNat, if_pos valid]
  have begins : w ++ [b] <+:
      String.utf8EncodeChar (Char.ofNat (s.bits * 64 + b.toNat % 64)) := by
    rw [h.concat_iff, utf8Size_eq_width, number]
    exact ⟨admits, size, value⟩
  refine (begins.eq_of_length ?_).symm
  rw [String.length_utf8EncodeChar, utf8Size_eq_width, number, size, List.length_append, ← h.seen,
    last]
  rfl

end After

/-! ## The first byte -/

/-- A character begins with the byte that is the first of its number. -/
theorem begins_singleton_iff {b : UInt8} {c : Char} :
    [b] <+: String.utf8EncodeChar c ↔ firstByte c.toNat = b.toNat := by
  have bound : c.toNat ≤ 0x10FFFF := c.toNat_le_max
  have cases := width_firstByte c.toNat
  rw [utf8EncodeChar_eq, List.cons_prefix_cons, ← UInt8.toNat_inj, UInt8.toNat_ofNat']
  simp only [List.nil_prefix, and_true]
  omega

/-- What has to be known of numbers for a first byte to leave a state behind. -/
theorem after_lead {b : UInt8} {later bits : Nat} {low high : UInt8}
    (first : ∀ v, v.isValidChar → (firstByte v = b.toNat ↔
      width v = later + 2 ∧ v / Nat.pow 64 (later + 1) = bits))
    (tails : 0x80 ≤ low.toNat ∧ low.toNat ≤ high.toNat ∧ high.toNat ≤ 0xBF)
    (complete : ∀ v, low.toNat ≤ v / Nat.pow 64 later % 64 + 0x80 →
      v / Nat.pow 64 later % 64 + 0x80 ≤ high.toNat → v / Nat.pow 64 (later + 1) = bits →
      v.isValidChar ∧ width v = later + 2)
    (next : ∀ v, v.isValidChar → firstByte v = b.toNat →
      low.toNat ≤ v / Nat.pow 64 later % 64 + 0x80 ∧
        v / Nat.pow 64 later % 64 + 0x80 ≤ high.toNat) :
    After [b] ⟨1, later, bits, low, high⟩ where
  seen := rfl
  seen_pos := Nat.le_refl 1
  begins_iff c := by
    rw [begins_singleton_iff, first c.toNat c.valid, utf8Size_eq_width]
    show _ ↔ _ = 1 + later + 1 ∧ _
    rw [Nat.add_comm 1 later]
  tail x hx := by
    simp only [Sequence.admits, decide_eq_true_eq, UInt8.le_iff_toNat_le] at hx
    omega
  complete x hx v hv := by
    simp only [Sequence.admits, decide_eq_true_eq, UInt8.le_iff_toNat_le] at hx
    have quot := div_pow_succ v later
    have bits : v / Nat.pow 64 later = bits * 64 + x.toNat % 64 := hv
    obtain ⟨valid, size⟩ := complete v (by omega) (by omega) (by omega)
    refine ⟨valid, ?_⟩
    show width v = 1 + later + 1
    omega
  next c hc := by
    have bounds := next c.toNat c.valid (begins_singleton_iff.mp hc)
    simp only [Sequence.admits, decide_eq_true_eq, UInt8.le_iff_toNat_le, UInt8.toNat_ofNat']
    omega
  continued := by
    refine ⟨low, ?_⟩
    simp only [Sequence.admits, decide_eq_true_eq, UInt8.le_iff_toNat_le]
    omega

/-- Behind the first byte of two there is one more, without a further bound. -/
theorem after_two {b : UInt8} {bits : Nat} (h : 0xC2 ≤ b.toNat ∧ b.toNat < 0xE0)
    (hbits : bits = b.toNat - 0xC0) : After [b] ⟨1, 0, bits, 0x80, 0xBF⟩ := by
  have one : Nat.pow 64 1 = 64 := rfl
  have zero : Nat.pow 64 0 = 1 := rfl
  refine after_lead ?_ ?_ ?_ ?_
  · intro v _
    have cases := width_firstByte v
    rw [Nat.zero_add, one]
    omega
  · decide
  · intro v _ _ above
    have cases := width_firstByte v
    rw [Nat.zero_add, one] at above
    unfold Nat.isValidChar
    omega
  · intro v _ _
    rw [zero]
    show 128 ≤ _ ∧ _ ≤ 191
    omega

/-- The lower bound excludes what two bytes would do for, the upper one
surrogates. -/
theorem after_three {b low high : UInt8} {bits : Nat} (h : 0xE0 ≤ b.toNat ∧ b.toNat < 0xF0)
    (hbits : bits = b.toNat - 0xE0)
    (hlow : b.toNat = 0xE0 ∧ low.toNat = 0xA0 ∨ b.toNat ≠ 0xE0 ∧ low.toNat = 0x80)
    (hhigh : b.toNat = 0xED ∧ high.toNat = 0x9F ∨ b.toNat ≠ 0xED ∧ high.toNat = 0xBF) :
    After [b] ⟨1, 1, bits, low, high⟩ := by
  have two : Nat.pow 64 2 = 4096 := rfl
  have one : Nat.pow 64 1 = 64 := rfl
  refine after_lead ?_ ?_ ?_ ?_
  · intro v _
    have cases := width_firstByte v
    rw [two]
    omega
  · omega
  · intro v least most above
    have cases := width_firstByte v
    rw [one] at least most
    rw [two] at above
    unfold Nat.isValidChar
    omega
  · intro v valid first
    have cases := width_firstByte v
    unfold Nat.isValidChar at valid
    rw [one]
    omega

/-- The lower bound excludes what three bytes would do for, the upper one what is no
code point. -/
theorem after_four {b low high : UInt8} {bits : Nat} (h : 0xF0 ≤ b.toNat ∧ b.toNat < 0xF5)
    (hbits : bits = b.toNat - 0xF0)
    (hlow : b.toNat = 0xF0 ∧ low.toNat = 0x90 ∨ b.toNat ≠ 0xF0 ∧ low.toNat = 0x80)
    (hhigh : b.toNat = 0xF4 ∧ high.toNat = 0x8F ∨ b.toNat ≠ 0xF4 ∧ high.toNat = 0xBF) :
    After [b] ⟨1, 2, bits, low, high⟩ := by
  have three : Nat.pow 64 3 = 262144 := rfl
  have two : Nat.pow 64 2 = 4096 := rfl
  refine after_lead ?_ ?_ ?_ ?_
  · intro v valid
    have cases := width_firstByte v
    unfold Nat.isValidChar at valid
    rw [three]
    omega
  · omega
  · intro v least most above
    have cases := width_firstByte v
    rw [two] at least most
    rw [three] at above
    unfold Nat.isValidChar
    omega
  · intro v valid first
    have cases := width_firstByte v
    unfold Nat.isValidChar at valid
    rw [two]
    omega

theorem utf8EncodeChar_of_ascii {b : UInt8} (h : b.toNat < 0x80) :
    String.utf8EncodeChar (Char.ofNat b.toNat) = [b] := by
  have number : (Char.ofNat b.toNat).toNat = b.toNat := by
    rw [Char.toNat_ofNat, if_pos (Or.inl (by omega))]
  have small : b.toNat ≤ 0x7F := by omega
  rw [utf8EncodeChar_eq, number, firstByte, width, if_pos small, if_pos small, UInt8.ofNat_toNat]
  rfl

/-- These bytes begin no character: those of the middle of one, the first of an
overlong form, and what would begin a number beyond the last code point. -/
theorem not_begins {b : UInt8} (h : 0x80 ≤ b.toNat ∧ b.toNat < 0xC2 ∨ 0xF5 ≤ b.toNat) :
    ¬ Begins [b] := by
  rintro ⟨c, hc⟩
  have bound : c.toNat ≤ 0x10FFFF := c.toNat_le_max
  have cases := width_firstByte c.toNat
  rw [begins_singleton_iff] at hc
  omega

/-- `lead` by the number of the byte. -/
theorem lead_eq (b : UInt8) :
    lead b =
      if b.toNat < 0x80 then .inl (.char (Char.ofNat b.toNat))
      else if b.toNat < 0xC2 then .inl (.flaw 1 false)
      else if b.toNat < 0xE0 then .inr ⟨1, 0, b.toNat - 0xC0, 0x80, 0xBF⟩
      else if b.toNat = 0xE0 then .inr ⟨1, 1, 0, 0xA0, 0xBF⟩
      else if b.toNat = 0xED then .inr ⟨1, 1, 0xD, 0x80, 0x9F⟩
      else if b.toNat < 0xF0 then .inr ⟨1, 1, b.toNat - 0xE0, 0x80, 0xBF⟩
      else if b.toNat = 0xF0 then .inr ⟨1, 2, 0, 0x90, 0xBF⟩
      else if b.toNat < 0xF4 then .inr ⟨1, 2, b.toNat - 0xF0, 0x80, 0xBF⟩
      else if b.toNat = 0xF4 then .inr ⟨1, 2, 4, 0x80, 0x8F⟩
      else .inl (.flaw 1 false) := by
  unfold lead
  simp only [UInt8.lt_iff_toNat_lt, ← UInt8.toNat_inj, UInt8.reduceToNat]

/-- A first byte is a character, or begins none, or leaves a state behind. -/
inductive Leads (b : UInt8) : Piece ⊕ Sequence → Prop where
  | char {c : Char} (bytes : String.utf8EncodeChar c = [b]) : Leads b (.inl (.char c))
  | flaw (none : ¬ Begins [b]) : Leads b (.inl (.flaw 1 false))
  | state {s : Sequence} (after : After [b] s) : Leads b (.inr s)

/-- Each byte is an ASCII character, begins a sequence, or begins nothing; the cases
are those of the table. -/
theorem leads_lead (b : UInt8) : Leads b (lead b) := by
  rw [lead_eq]
  split_ifs with ascii tail two e0 ed three f0 four f4
  · exact .char (utf8EncodeChar_of_ascii ascii)
  · exact .flaw (not_begins (by omega))
  · exact .state (after_two (by omega) rfl)
  · exact .state (after_three (by omega) (by omega) (.inl ⟨e0, rfl⟩) (.inr ⟨by omega, rfl⟩))
  · exact .state (after_three (by omega) (by omega) (.inr ⟨e0, rfl⟩) (.inl ⟨ed, rfl⟩))
  · exact .state (after_three (by omega) rfl (.inr ⟨e0, rfl⟩) (.inr ⟨ed, rfl⟩))
  · exact .state (after_four (by omega) (by omega) (.inl ⟨f0, rfl⟩) (.inr ⟨by omega, rfl⟩))
  · exact .state (after_four (by omega) rfl (.inr ⟨f0, rfl⟩) (.inr ⟨by omega, rfl⟩))
  · exact .state (after_four (by omega) (by omega) (.inr ⟨f0, rfl⟩) (.inl ⟨f4, rfl⟩))
  · exact .flaw (not_begins (by omega))

end HeapLens.Text.Utf8
