import HeapLens.Proofs.SnapshotHistory
import HeapLens.Proofs.TextSummary
import HeapLens.Proofs.Utf8Reading

/-!
# A text survives reading, and mostly cutting

A string whose bytes are those of a text shows as that text. If there are more of
them than are read, the limit cuts behind a character or within one:

> `exists_cut`: what is left are the bytes of a number of whole characters, and a
> proper beginning of the next one, which may be empty.

The characters are as many as fit (`LongestFitting`), since one more would take more
bytes than there are. By the rule for flaws the rest shows as a single replacement
character, or as nothing if it is empty.
-/

namespace HeapLens

/-- The bytes are mapped from `addr` on, in one region. -/
def Snapshot.Contains (s : Snapshot) (addr : Nat) (bytes : List UInt8) : Prop :=
  bytes = [] ∨ ∃ r ∈ s.regions, r.start ≤ addr ∧ bytes <+: r.bytes.drop (addr - r.start)

namespace Text.Utf8

/-- The longest beginning of `text`, in whole characters, that fits into `room`
bytes. -/
structure LongestFitting (text : List Char) (room : Nat) (first : List Char) : Prop where
  begins : first <+: text
  fits : (encode first).length ≤ room
  longest : ∀ other, other <+: text → (encode other).length ≤ room → other <+: first

/-- The first `room` bytes of `text` are those of whole characters. -/
def CutsBetween (text : List Char) (room : Nat) : Prop :=
  ∃ first, first <+: text ∧ (encode first).length = room

variable {text first rest : List Char} {c : Char} {w : List UInt8} {room : Nat}

/-! ## Cutting -/

theorem encode_append (first rest : List Char) :
    encode (first ++ rest) = encode first ++ encode rest := List.flatMap_append

theorem length_encode_le {other : List Char} (h : other <+: first) :
    (encode other).length ≤ (encode first).length := by
  obtain ⟨more, rfl⟩ := h
  rw [encode_append, List.length_append]
  omega

/-- A cut leaves whole characters and a proper beginning of the next one. -/
theorem exists_cut : ∀ {text : List Char} {room : Nat}, room < (encode text).length →
    ∃ first c rest w, text = first ++ c :: rest ∧ (encode text).take room = encode first ++ w ∧
      w <+: String.utf8EncodeChar c ∧ w.length < (String.utf8EncodeChar c).length := by
  intro text
  induction text with
  | nil => exact fun h => absurd h (Nat.not_lt_zero _)
  | cons c text ih =>
    intro room h
    have bytes : encode (c :: text) = String.utf8EncodeChar c ++ encode text := rfl
    rw [bytes] at h ⊢
    rw [List.length_append] at h
    rcases Nat.lt_or_ge room (String.utf8EncodeChar c).length with within | behind
    · refine ⟨[], c, text, (String.utf8EncodeChar c).take room, rfl, ?_, List.take_prefix _ _, ?_⟩
      · rw [List.take_append_of_le_length (by omega)]
        rfl
      · rw [List.length_take]
        omega
    · have fewer : room - (String.utf8EncodeChar c).length < (encode text).length := by omega
      obtain ⟨first, d, rest, w, rfl, cut, hw, proper⟩ := ih fewer
      refine ⟨c :: first, d, rest, w, rfl, ?_, hw, proper⟩
      rw [List.take_append, List.take_of_length_le behind, cut, ← List.append_assoc]
      rfl

/-- The characters that a cut leaves whole are as many as fit. -/
theorem longestFitting_of_cut (fits : (encode first).length ≤ room)
    (next : room < (encode (first ++ [c])).length) :
    LongestFitting (first ++ c :: rest) room first := by
  refine ⟨List.prefix_append _ _, fits, ?_⟩
  intro other hother hfits
  rcases List.prefix_or_prefix_of_prefix hother (List.prefix_append first (c :: rest)) with
    shorter | longer
  · exact shorter
  · obtain ⟨more, rfl⟩ := longer
    cases more with
    | nil => simp
    | cons d more =>
      -- With one more character it has the bytes of the next one.
      obtain ⟨rfl, -⟩ := List.cons_prefix_cons.mp ((List.prefix_append_right_inj first).mp hother)
      have begins : first ++ [d] <+: first ++ d :: more := ⟨more, by simp⟩
      have least := length_encode_le begins
      omega

/-- The cut is between two characters if the longest prefix that fits fills the
room. -/
theorem cutsBetween_iff (h : LongestFitting text room first) :
    CutsBetween text room ↔ (encode first).length = room := by
  constructor
  · rintro ⟨other, hother, whole⟩
    have most := length_encode_le (h.longest other hother (Nat.le_of_eq whole))
    have fits := h.fits
    omega
  · intro whole
    exact ⟨first, h.begins, whole⟩

/-- Of a text that is cut whole characters are left, and a replacement character if
the cut was within one. -/
theorem exists_lossy_take (h : room < (encode text).length) :
    ∃ first, LongestFitting text room first ∧
      (CutsBetween text room → lossy ((encode text).take room) = String.ofList first) ∧
      (¬ CutsBetween text room →
        lossy ((encode text).take room) = String.ofList first ++ "\uFFFD") := by
  obtain ⟨first, c, rest, w, rfl, cut, hw, proper⟩ := exists_cut h
  have size : (encode first).length + w.length = room := by
    have lengths := congrArg List.length cut
    rw [List.length_take, List.length_append] at lengths
    omega
  have next : (encode (first ++ [c])).length =
      (encode first).length + (String.utf8EncodeChar c).length := by
    rw [encode_append, List.length_append]
    simp [encode]
  have longest : LongestFitting (first ++ c :: rest) room first :=
    longestFitting_of_cut (by omega) (by omega)
  refine ⟨first, longest, ?_, ?_⟩
  · intro between
    have whole := (cutsBetween_iff longest).mp between
    have none : w = [] := List.length_eq_zero_iff.mp (by omega)
    rw [cut, none, List.append_nil, lossy_encode]
  · intro within
    have some : w ≠ [] := by
      rintro rfl
      exact within ((cutsBetween_iff longest).mpr size)
    rw [cut, lossy_encode_append, lossy_beginning hw proper some]

end Text.Utf8

/-! ## The bytes of a string -/

/-- Bytes that are mapped can be read, and so can the first of them. -/
theorem Snapshot.read_of_contains {s : Snapshot} (valid : s.Valid) {addr : Nat}
    {bytes : List UInt8} (h : s.Contains addr bytes) {count : Nat} (fits : count ≤ bytes.length) :
    s.read addr count = .ok (bytes.take count) := by
  rcases Nat.eq_zero_or_pos count with rfl | some
  · rfl
  · rcases h with rfl | ⟨r, hr, lower, there⟩
    · exact absurd fits (Nat.not_le.mpr some)
    · have upper := there.length_le
      rw [List.length_drop] at upper
      have covers : r.Covers addr count := by
        refine ⟨lower, ?_⟩
        unfold Region.stop
        omega
      obtain ⟨behind, same⟩ := there
      rw [read_of_covers valid hr some covers, ← same, List.take_append_of_le_length fits]

open Text.Utf8

/-- **A text survives reading and cutting.** If the bytes of a text lie in one
region, where a string says that they are, the string shows as the text. If there
are more than are read, it shows as the longest beginning of whole characters that
fits, then as one replacement character exactly if the cut is within a character,
then an ellipsis. Text is read as itself whatever is behind it, and there are never
more characters than bytes; the reading follows the rule of maximal subparts. -/
theorem text_survives (types : TypeTable) (ops : List Snapshot.Op) (settings : Settings) :
    let snapshot := Snapshot.run ops
    let program : Program := ⟨types, snapshot.memory⟩
    (∀ (subject : Value) (text : String) (addr : Nat), addr ≠ 0 →
      program.Promises subject (encode text.toList).length addr →
      snapshot.Contains addr (encode text.toList) →
      let summary := (Printer.summary program settings ⟨subject, .text⟩).value
      ((encode text.toList).length ≤ settings.maxTextBytes → summary = text) ∧
      (settings.maxTextBytes < (encode text.toList).length →
        ∃ first, LongestFitting text.toList settings.maxTextBytes first ∧
          (CutsBetween text.toList settings.maxTextBytes →
            summary = String.ofList first ++ "...") ∧
          (¬ CutsBetween text.toList settings.maxTextBytes →
            summary = String.ofList first ++ "\uFFFD" ++ "..."))) ∧
    (∀ (text : String) (behind : List UInt8),
      lossy (encode text.toList ++ behind) = text ++ lossy behind) ∧
    (∀ bytes, (lossy bytes).length ≤ bytes.length) ∧
    (∀ bytes, ∃ ps, Reads bytes ps ∧ lossy bytes = String.ofList (ps.map Piece.shown)) := by
  intro snapshot program
  refine ⟨?_, ?_, length_lossy_le, fun bytes => ⟨_, reads_pieces bytes, rfl⟩⟩
  · intro subject text addr notNull promises contains summary
    have valid := (Snapshot.recalls_run ops).valid
    have shows : Printer.ShowsPromised program settings subject (encode text.toList).length addr :=
      Printer.showsPromised promises
    have notNegative : (0 : Int) ≤ (encode text.toList).length := Int.natCast_nonneg _
    have read := Snapshot.read_of_contains valid contains
      (Nat.min_le_left (encode text.toList).length settings.maxTextBytes)
    have shown := shows.readable notNull notNegative _ read
    constructor
    · intro fits
      have whole : ¬ (settings.maxTextBytes : Int) < (encode text.toList).length := by omega
      rw [Nat.min_eq_left fits, List.take_length, lossy_encode, String.ofList_toList,
        if_neg whole] at shown
      exact shown.trans String.append_empty
    · intro long
      have more : (settings.maxTextBytes : Int) < (encode text.toList).length := by omega
      rw [Nat.min_eq_right (Nat.le_of_lt long), if_pos more] at shown
      obtain ⟨first, longest, between, within⟩ := exists_lossy_take long
      exact ⟨first, longest, fun cut => shown.trans (by rw [between cut]),
        fun cut => shown.trans (by rw [within cut])⟩
  · intro text behind
    rw [lossy_encode_append, String.ofList_toList]

/-! ### A cut within a character -/

/-- A string of four bytes, of which the last three are one character. -/
def euroOps : List Snapshot.Op :=
  [.add 0x1000 ([4, 0x2000].flatMap (LittleEndian.toBytes 8)), .add 0x2000 [0x68, 0xE2, 0x82, 0xAC]]

def euroProgram : Program := ⟨textTypes, (Snapshot.run euroOps).memory⟩

/-- With all its bytes the text is whole, and with two of them a replacement
character is in place of the second character. -/
theorem text_survives_euro :
    encode "h€".toList = [0x68, 0xE2, 0x82, 0xAC] ∧
      euroProgram.Promises (.stored 0x1000 4) 4 0x2000 ∧
      (Printer.summary euroProgram {} ⟨.stored 0x1000 4, .text⟩).value = "h€" ∧
      ¬ CutsBetween "h€".toList 2 ∧
      ∃ first, LongestFitting "h€".toList 2 first ∧
        (Printer.summary euroProgram { maxTextBytes := 2 } ⟨.stored 0x1000 4, .text⟩).value =
          String.ofList first ++ "\uFFFD" ++ "..." := by
  have bytes : encode "h€".toList = [0x68, 0xE2, 0x82, 0xAC] := by decide
  have length : (encode "h€".toList).length = 4 := by rw [bytes]; rfl
  have promises : euroProgram.Promises (.stored 0x1000 4) 4 0x2000 :=
    ⟨.stored 0x1000 4, .stored 0x1008 3, .itself rfl, rfl, rfl, rfl⟩
  have contains : (Snapshot.run euroOps).Contains 0x2000 (encode "h€".toList) := by
    rw [bytes]
    exact .inr ⟨⟨0x2000, [0x68, 0xE2, 0x82, 0xAC]⟩, by decide, by decide, List.prefix_rfl⟩
  have chars : "h€".toList = ['h'] ++ '€' :: [] := by decide
  have longest : LongestFitting "h€".toList 2 ['h'] := by
    rw [chars]
    exact longestFitting_of_cut (by decide) (by decide)
  have within : ¬ CutsBetween "h€".toList 2 := by
    rw [cutsBetween_iff longest]
    decide
  have whole := ((text_survives textTypes euroOps {}).1 _ "h€" 0x2000 (by decide)
    (length ▸ promises) contains).1
  have cut := ((text_survives textTypes euroOps { maxTextBytes := 2 }).1 _ "h€" 0x2000 (by decide)
    (length ▸ promises) contains).2
  rw [length] at whole cut
  obtain ⟨first, most, -, shown⟩ := cut (by decide)
  exact ⟨bytes, promises, whole (by decide), within, first, most, shown within⟩

end HeapLens
