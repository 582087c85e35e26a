import HeapLens.Proofs.Utf8States

/-!
# UTF-8 is read by maximal subparts

Which bytes count as one flaw is laid down by a rule: the longest beginning of a
character that is there, or a single byte if there is none.

> `Reads`: characters are read where there are any, and else a flaw of maximal
> length (`MaximalFlaw`).

The rule leaves no choice (`Reads.unique`), since no character's bytes begin those
of another (`utf8EncodeChar_unique`), and `pieces` follows it (`reads_iff`). All
that is known of lenient reading comes from the rule: text is read as itself,
whatever is behind it (`lossy_encode_append`), and the beginning of a character as
one flaw (`lossy_beginning`).
-/

namespace HeapLens.Text.Utf8

/-- The bytes of a text. -/
def encode (text : List Char) : List UInt8 := text.flatMap String.utf8EncodeChar

/-- The bytes `bad`, with `rest` behind them, are a maximal subpart of what is no
text: no character can be read here, and `bad` is a single byte or the longest
beginning of a character. -/
structure MaximalFlaw (bad rest : List UInt8) : Prop where
  unreadable : ∀ c, ¬ String.utf8EncodeChar c <+: bad ++ rest
  nonempty : bad ≠ []
  short : bad.length = 1 ∨ Begins bad
  longest : ∀ w, w <+: bad ++ rest → Begins w → w.length ≤ bad.length

/-- The bytes are read as these pieces, by the rule. A flaw is unfinished if it is
all that is left and the beginning of a character. -/
inductive Reads : List UInt8 → List Piece → Prop where
  | nil : Reads [] []
  | char (c : Char) {rest : List UInt8} {pieces : List Piece} (more : Reads rest pieces) :
      Reads (String.utf8EncodeChar c ++ rest) (.char c :: pieces)
  | flaw {bad rest : List UInt8} {unfinished : Bool} {pieces : List Piece}
      (maximal : MaximalFlaw bad rest) (ends : unfinished = true ↔ rest = [] ∧ Begins bad)
      (more : Reads rest pieces) : Reads (bad ++ rest) (.flaw bad.length unfinished :: pieces)

variable {bytes w : List UInt8} {c d : Char} {text : List Char}

/-! ## Characters do not begin each other -/

/-- No two characters begin the same bytes, since none is encoded as a beginning of
another. -/
theorem utf8EncodeChar_unique {l : List UInt8} (hc : String.utf8EncodeChar c <+: l)
    (hd : String.utf8EncodeChar d <+: l) : c = d := by
  have first : ∀ {e : Char}, String.utf8EncodeChar e <+: l →
      ByteArray.utf8DecodeChar? l.toByteArray 0 = some e := by
    rintro e ⟨r, rfl⟩
    rw [List.toByteArray_append]
    exact ByteArray.utf8DecodeChar?_utf8EncodeChar_append
  exact Option.some.inj ((first hc).symm.trans (first hd))

theorem Begins.mono {v : List UInt8} (h : Begins w) (hv : v <+: w) : Begins v := by
  obtain ⟨c, hc⟩ := h
  exact ⟨c, hv.trans hc⟩

theorem begins_utf8EncodeChar (c : Char) : Begins (String.utf8EncodeChar c) :=
  ⟨c, List.prefix_rfl⟩

/-- The proper beginning of a character has no whole one. -/
theorem not_utf8EncodeChar_prefix_of_lt (hw : w <+: String.utf8EncodeChar c)
    (proper : w.length < (String.utf8EncodeChar c).length) : ¬ String.utf8EncodeChar d <+: w := by
  intro hd
  obtain rfl := utf8EncodeChar_unique (hd.trans hw) List.prefix_rfl
  exact absurd hd.length_le (Nat.not_le.mpr proper)

/-! ## The rule -/

/-- Where no longer beginning is, no character is either. -/
theorem MaximalFlaw.of_longest {bad rest : List UInt8} (nonempty : bad ≠ [])
    (short : bad.length = 1 ∨ Begins bad) (whole : ∀ c, ¬ String.utf8EncodeChar c <+: bad)
    (longest : ∀ w, w <+: bad ++ rest → Begins w → w.length ≤ bad.length) :
    MaximalFlaw bad rest := by
  refine ⟨?_, nonempty, short, longest⟩
  intro c hc
  have fits := longest _ hc (begins_utf8EncodeChar c)
  exact whole c (List.prefix_of_prefix_length_le hc (List.prefix_append bad rest) fits)

/-- Of two flaws at one place neither is longer. -/
theorem MaximalFlaw.length_le {bad rest bad' rest' : List UInt8} (h : MaximalFlaw bad rest)
    (h' : MaximalFlaw bad' rest') (same : bad ++ rest = bad' ++ rest') :
    bad.length ≤ bad'.length := by
  rcases h.short with single | begins
  · have some : 0 < bad'.length := List.length_pos_iff.mpr h'.nonempty
    omega
  · exact h'.longest bad (same ▸ List.prefix_append bad rest) begins

/-- What is read is nothing, or begins with a character, or begins with a flaw. -/
theorem Reads.cases_first {pieces : List Piece} (h : Reads bytes pieces) :
    bytes = [] ∧ pieces = [] ∨
    (∃ c rest more, bytes = String.utf8EncodeChar c ++ rest ∧ pieces = .char c :: more ∧
      Reads rest more) ∨
    ∃ bad rest unfinished more, bytes = bad ++ rest ∧
      pieces = .flaw bad.length unfinished :: more ∧ MaximalFlaw bad rest ∧
      (unfinished = true ↔ rest = [] ∧ Begins bad) ∧ Reads rest more := by
  cases h with
  | nil => exact .inl ⟨rfl, rfl⟩
  | char c more => exact .inr (.inl ⟨c, _, _, rfl, rfl, more⟩)
  | flaw maximal ends more => exact .inr (.inr ⟨_, _, _, _, rfl, rfl, maximal, ends, more⟩)

/-- The rule leaves no choice. -/
theorem Reads.unique {first second : List Piece} (h : Reads bytes first)
    (h' : Reads bytes second) : first = second := by
  induction h generalizing second with
  | nil =>
    rcases h'.cases_first with ⟨-, rfl⟩ | ⟨c, rest, more, same, -⟩ |
      ⟨bad, rest, _, _, same, -, flaw, -⟩
    · rfl
    · exact absurd (List.append_eq_nil_iff.mp same.symm).1 String.utf8EncodeChar_ne_nil
    · exact absurd (List.append_eq_nil_iff.mp same.symm).1 flaw.nonempty
  | @char c rest pieces more ih =>
    have here : String.utf8EncodeChar c <+: String.utf8EncodeChar c ++ rest :=
      List.prefix_append _ _
    rcases h'.cases_first with ⟨none, -⟩ | ⟨d, rest', more', same, rfl, h'⟩ |
      ⟨bad, rest', _, _, same, -, flaw, -⟩
    · exact absurd (List.append_eq_nil_iff.mp none).1 String.utf8EncodeChar_ne_nil
    · obtain rfl : c = d := utf8EncodeChar_unique here ⟨rest', same.symm⟩
      obtain rfl : rest = rest' := List.append_cancel_left same
      rw [ih h']
    · exact absurd (same ▸ here) (flaw.unreadable c)
  | @flaw bad rest unfinished pieces maximal ends more ih =>
    rcases h'.cases_first with ⟨none, -⟩ | ⟨d, rest', more', same, rfl, h'⟩ |
      ⟨bad', rest', _, _, same, rfl, maximal', ends', h'⟩
    · exact absurd (List.append_eq_nil_iff.mp none).1 maximal.nonempty
    · exact absurd ⟨rest', same.symm⟩ (maximal.unreadable d)
    · have length := Nat.le_antisymm (maximal.length_le maximal' same)
        (maximal'.length_le maximal same.symm)
      obtain ⟨rfl, rfl⟩ := List.append_inj same length
      rw [ih h', Bool.eq_iff_iff.mpr (ends.trans ends'.symm)]

/-! ## The reader follows the rule -/

/-- A byte that begins nothing is a flaw. -/
theorem maximalFlaw_of_not_begins {b : UInt8} (h : ¬ Begins [b]) (rest : List UInt8) :
    MaximalFlaw [b] rest := by
  refine .of_longest (List.cons_ne_nil b []) (.inl rfl) ?_ ?_
  · intro c hc
    have some := List.length_pos_iff.mpr (String.utf8EncodeChar_ne_nil (c := c))
    have whole : String.utf8EncodeChar c = [b] := hc.eq_of_length_le some
    exact h (whole ▸ begins_utf8EncodeChar c)
  · intro w hw begins
    cases w with
    | nil => exact Nat.zero_le _
    | cons x w =>
      obtain ⟨rfl, -⟩ := List.cons_prefix_cons.mp hw
      exact absurd (begins.mono ⟨w, rfl⟩) h

/-- What a state has behind it is a flaw if it cannot go on. -/
theorem After.maximalFlaw {s : Sequence} (h : After w s) {rest : List UInt8}
    (stuck : ∀ b, [b] <+: rest → s.admits b = false) : MaximalFlaw w rest := by
  have nonempty : w ≠ [] := by
    intro none
    have pos := h.seen_pos
    rw [h.seen, none] at pos
    exact absurd pos (by decide)
  obtain ⟨c, hc⟩ := h.begins
  refine .of_longest nonempty (.inr ⟨c, hc⟩)
    (fun d => not_utf8EncodeChar_prefix_of_lt hc (h.length_lt hc)) ?_
  intro v hv begins
  -- A longer beginning has the byte that comes next, and that is not admitted.
  by_contra longer
  obtain ⟨more, rfl⟩ := List.prefix_of_prefix_length_le (List.prefix_append w rest) hv (by omega)
  cases more with
  | nil => simp at longer
  | cons b more =>
    have next : Begins (w ++ [b]) := begins.mono ⟨more, by simp⟩
    have there : [b] <+: rest :=
      (List.prefix_append [b] more).trans ((List.prefix_append_right_inj w).mp hv)
    rw [h.begins_concat_iff, stuck b there] at next
    cases next

/-- The reader follows the rule, between characters and behind the bytes of one, by
induction on the bytes that are left. -/
theorem reads_piecesAfter : ∀ bytes : List UInt8,
    Reads bytes (piecesAfter none bytes) ∧
      ∀ w s, After w s → Reads (w ++ bytes) (piecesAfter (some s) bytes) := by
  intro bytes
  induction bytes with
  | nil =>
    refine ⟨.nil, ?_⟩
    intro w s h
    rw [piecesAfter, h.seen]
    have none : ∀ b, [b] <+: [] → s.admits b = false := by simp
    exact .flaw (h.maximalFlaw none) ⟨fun _ => ⟨rfl, h.begins⟩, fun _ => rfl⟩ .nil
  | cons b bytes ih =>
    have between : Reads (b :: bytes) (piecesAfter none (b :: bytes)) := by
      have leads := leads_lead b
      rw [piecesAfter]
      generalize lead b = read at leads
      cases leads with
      | @char c whole =>
        have more := Reads.char c ih.1
        rwa [whole] at more
      | flaw none =>
        exact .flaw (maximalFlaw_of_not_begins none bytes) ⟨nofun, fun h => absurd h.2 none⟩ ih.1
      | state after => exact ih.2 [b] _ after
    refine ⟨between, ?_⟩
    intro w s h
    by_cases admits : s.admits b = true
    · rw [piecesAfter, if_pos admits, Sequence.extend]
      have shift : w ++ b :: bytes = w ++ [b] ++ bytes := by simp
      rw [shift]
      cases later : s.later with
      | zero =>
        have more := Reads.char (Char.ofNat (s.bits * 64 + b.toNat % 64)) ih.1
        rwa [h.eq_utf8EncodeChar admits later] at more
      | succ later' => exact ih.2 _ _ (h.extend admits later)
    · rw [Bool.not_eq_true] at admits
      have stuck : ∀ x, [x] <+: b :: bytes → s.admits x = false := by
        intro x hx
        obtain ⟨rfl, -⟩ := List.cons_prefix_cons.mp hx
        exact admits
      have ends : false = true ↔ b :: bytes = [] ∧ Begins w := by simp
      rw [piecesAfter, if_neg (by simp [admits]), h.seen]
      exact .flaw (h.maximalFlaw stuck) ends between

/-- The pieces that are computed are a reading. -/
theorem reads_pieces (bytes : List UInt8) : Reads bytes (pieces bytes) :=
  (reads_piecesAfter bytes).1

/-- Bytes are read by the rule. -/
theorem reads_iff {ps : List Piece} : Reads bytes ps ↔ ps = pieces bytes :=
  ⟨fun h => h.unique (reads_pieces bytes), fun h => h ▸ reads_pieces bytes⟩

/-! ## Lenient reading -/

/-- A text is read as itself, whatever is behind it. -/
theorem reads_encode_append (text : List Char) {rest : List UInt8} {ps : List Piece}
    (h : Reads rest ps) : Reads (encode text ++ rest) (text.map .char ++ ps) := by
  induction text with
  | nil => exact h
  | cons c text ih =>
    have more := Reads.char c ih
    rw [← List.append_assoc] at more
    exact more

/-- Text is read as itself, whatever is behind it. -/
theorem lossy_encode_append (text : List Char) (rest : List UInt8) :
    lossy (encode text ++ rest) = String.ofList text ++ lossy rest := by
  have read := reads_iff.mp (reads_encode_append text (reads_pieces rest))
  have shown : (text.map Piece.char).map Piece.shown = text := by
    rw [List.map_map]
    exact List.map_id text
  unfold lossy
  rw [← read, List.map_append, shown, String.ofList_append]

/-- A text that is encoded and read leniently comes back. -/
theorem lossy_encode (text : List Char) : lossy (encode text) = String.ofList text := by
  have whole := lossy_encode_append text []
  rw [List.append_nil] at whole
  rw [whole]
  exact String.append_empty

/-- The beginning of a character, with nothing behind it, is one flaw. -/
theorem lossy_beginning (hw : w <+: String.utf8EncodeChar c)
    (proper : w.length < (String.utf8EncodeChar c).length) (some : w ≠ []) :
    lossy w = "\uFFFD" := by
  have flaw : MaximalFlaw w [] := by
    refine .of_longest some (.inr ⟨c, hw⟩) (fun d => not_utf8EncodeChar_prefix_of_lt hw proper) ?_
    intro v hv _
    rw [List.append_nil] at hv
    exact hv.length_le
  have read : Reads (w ++ []) [.flaw w.length true] :=
    .flaw flaw ⟨fun _ => ⟨rfl, c, hw⟩, fun _ => rfl⟩ .nil
  rw [List.append_nil] at read
  unfold lossy
  rw [← reads_iff.mp read]
  rfl

/-- Each piece has a byte. -/
theorem Reads.length_le {ps : List Piece} (h : Reads bytes ps) : ps.length ≤ bytes.length := by
  induction h with
  | nil => exact Nat.le_refl 0
  | @char c rest pieces more ih =>
    have pos := List.length_pos_iff.mpr (String.utf8EncodeChar_ne_nil (c := c))
    rw [List.length_cons, List.length_append]
    omega
  | @flaw bad rest unfinished pieces maximal ends more ih =>
    have pos := List.length_pos_iff.mpr maximal.nonempty
    rw [List.length_cons, List.length_append]
    omega

/-- There are no more characters than bytes, since every piece takes at least
one. -/
theorem length_lossy_le (bytes : List UInt8) : (lossy bytes).length ≤ bytes.length := by
  unfold lossy
  rw [String.length_ofList, List.length_map]
  exact (reads_pieces bytes).length_le

end HeapLens.Text.Utf8
