import HeapLens.Proofs.ItemsShown
import HeapLens.Proofs.TextSummary

/-!
# Quoted text is read back

Between the quotes every character stands as itself or as an escape. What it is
written as depends on the character alone, so what holds of one of these pieces,
with anything behind it, holds of the text:

> `unescapeFrom_escapeChar`: reading a piece gives the character, and goes on
> between characters.
> `Closed.append`: a piece does not end in the middle of an escape, so it escapes
> nothing behind it.

Which characters are printed as themselves does not matter, as long as no control
character is (`writtenAs_escape`). So texts that look the same in quotes are the
same, whatever they contain: that of an escape, say, is written with its backslash
doubled.
-/

namespace HeapLens

namespace Text

/-- The characters below the space, and from the delete character to U+009F. -/
def IsControl (c : Char) : Prop := c.toNat < 0x20 ∨ 0x7F ≤ c.toNat ∧ c.toNat ≤ 0x9F

/-- The number of backslashes at the end. -/
def trailingBackslashes (cs : List Char) : Nat := (cs.reverse.takeWhile (· = '\\')).length

/-- A character behind `before` is escaped: the last of the backslashes before it is
not itself escaped. -/
def Escapes (before : List Char) : Prop := trailingBackslashes before % 2 = 1

/-- Each double quote is escaped. -/
def Closed (cs : List Char) : Prop := ∀ before after, cs = before ++ '"' :: after → Escapes before

/-- Between double quotes, `body` stands for `text`: it shows no control character,
it does not end early, nor does it escape the quote behind it, and it is read as the
text. -/
structure WrittenAs (text : String) (body : List Char) : Prop where
  noControl : ∀ c ∈ body, ¬ IsControl c
  closed : Closed body
  whole : ¬ Escapes body
  reads : unescape body = some text.toList

instance (c : Char) : Decidable (IsControl c) := inferInstanceAs (Decidable (_ ∨ _))

instance (before : List Char) : Decidable (Escapes before) := inferInstanceAs (Decidable (_ = _))

variable {plain : Char → Bool} {c : Char} {cs rest : List Char}

/-! ## Hexadecimal digits -/

theorem hexValue?_digitChar :
    ∀ k < 16, Nat.digitChar k ≠ '\x7d' ∧ hexValue? (Nat.digitChar k) = some k := by
  decide

theorem exists_digitChar_of_mem {d : Char} (n : Nat) (h : d ∈ hexDigits n) :
    ∃ k < 16, d = Nat.digitChar k := by
  induction n using Nat.strongRecOn with
  | ind n ih =>
    unfold hexDigits at h ih
    rcases Nat.lt_or_ge n 16 with small | large
    · rw [Nat.toDigits_of_lt_base small, List.mem_singleton] at h
      exact ⟨n, small, h⟩
    · rw [Nat.toDigits_of_base_le (by decide) large, List.mem_append, List.mem_singleton] at h
      rcases h with before | last
      · exact ih (n / 16) (by omega) before
      · exact ⟨n % 16, Nat.mod_lt n (by decide), last⟩

/-- Each digit is read with those before it, as in any number. -/
theorem unescapeFrom_digitChar {k : Nat} (h : k < 16) (number : Nat) (rest : List Char) :
    unescapeFrom (.digits number) (Nat.digitChar k :: rest) =
      unescapeFrom (.digits (number * 16 + k)) rest := by
  obtain ⟨inside, value⟩ := hexValue?_digitChar k h
  rw [unescapeFrom, if_neg inside, value]
  rfl

/-- Reading the digits of a number gives the number. -/
theorem unescapeFrom_hexDigits (n : Nat) (rest : List Char) :
    unescapeFrom (.digits 0) (hexDigits n ++ rest) = unescapeFrom (.digits n) rest := by
  induction n using Nat.strongRecOn generalizing rest with
  | ind n ih =>
    unfold hexDigits at ih ⊢
    rcases Nat.lt_or_ge n 16 with small | large
    · rw [Nat.toDigits_of_lt_base small]
      show unescapeFrom (.digits 0) (Nat.digitChar n :: rest) = _
      rw [unescapeFrom_digitChar small, Nat.zero_mul, Nat.zero_add]
    · rw [Nat.toDigits_of_base_le (by decide) large, List.append_assoc, ih (n / 16) (by omega)]
      show unescapeFrom (.digits (n / 16)) (Nat.digitChar (n % 16) :: rest) = _
      rw [unescapeFrom_digitChar (Nat.mod_lt n (by decide)), Nat.div_add_mod']

/-! ## Reading back -/

/-- A character that is given by its number is read back. -/
theorem unescapeFrom_numbered (c : Char) (rest : List Char) :
    unescapeFrom .between (numbered c ++ rest) = (unescapeFrom .between rest).map (c :: ·) := by
  unfold numbered
  rw [List.append_assoc, List.append_assoc]
  show unescapeFrom (.digits 0) (hexDigits c.toNat ++ ('\x7d' :: rest)) = _
  rw [unescapeFrom_hexDigits]
  show (unescapeFrom .between rest).map (Char.ofNat c.toNat :: ·) = _
  rw [Char.ofNat_toNat]

/-- What a character is written as is read as the character, whatever is behind
it. -/
theorem unescapeFrom_escapeChar (plain : Char → Bool) (c : Char) (rest : List Char) :
    unescapeFrom .between (escapeChar plain c ++ rest) =
      (unescapeFrom .between rest).map (c :: ·) := by
  unfold escapeChar
  split_ifs with zero tab carriage newline quote backslash itself
  · rw [zero]; rfl
  · rw [tab]; rfl
  · rw [carriage]; rfl
  · rw [newline]; rfl
  · rw [quote]; rfl
  · rw [backslash]; rfl
  · show unescapeFrom .between (c :: rest) = _
    rw [unescapeFrom, if_neg backslash, if_neg quote]
  · exact unescapeFrom_numbered c rest

/-- Every text is read back, by induction on its characters. -/
theorem unescape_escape (plain : Char → Bool) (cs : List Char) :
    unescape (escape plain cs) = some cs := by
  unfold unescape
  induction cs with
  | nil => rfl
  | cons c cs ih =>
    show unescapeFrom .between (escapeChar plain c ++ escape plain cs) = _
    rw [unescapeFrom_escapeChar, ih]
    rfl

/-! ## What stands between the quotes -/

/-- A number is written with digits, and with four other characters around them. -/
theorem mem_numbered {d : Char} (h : d ∈ numbered c) :
    d ∈ ['\\', 'u', '\x7b', '\x7d'] ∨ ∃ k < 16, d = Nat.digitChar k := by
  unfold numbered at h
  rw [List.mem_append, List.mem_append] at h
  rcases h with (announced | digit) | closing
  · exact .inl (List.mem_append_left ['\x7d'] announced)
  · exact .inr (exists_digitChar_of_mem c.toNat digit)
  · exact .inl (List.mem_append_right ['\\', 'u', '\x7b'] closing)

/-- No digit is a quotation mark or a control character. -/
theorem digitChar_ne_quote :
    ∀ k < 16, Nat.digitChar k ≠ '"' ∧ ¬ IsControl (Nat.digitChar k) := by
  decide

/-- A character is written as a backslash and a sign, as itself, or by its
number. -/
theorem escapeChar_cases (plain : Char → Bool) (c : Char) :
    (∃ sign ∈ ['0', 't', 'r', 'n', '"', '\\'], escapeChar plain c = ['\\', sign]) ∨
      (escapeChar plain c = [c] ∧ plain c = true ∧ c ≠ '"' ∧ c ≠ '\\') ∨
      escapeChar plain c = numbered c := by
  unfold escapeChar
  split_ifs with zero tab carriage newline quote backslash itself
  · exact .inl ⟨'0', by decide, rfl⟩
  · exact .inl ⟨'t', by decide, rfl⟩
  · exact .inl ⟨'r', by decide, rfl⟩
  · exact .inl ⟨'n', by decide, rfl⟩
  · exact .inl ⟨'"', by decide, rfl⟩
  · exact .inl ⟨'\\', by decide, rfl⟩
  · exact .inr (.inl ⟨rfl, itself, quote, backslash⟩)
  · exact .inr (.inr rfl)

/-- Control characters are not plain, and what stands for them has none. -/
theorem not_isControl_of_mem_escapeChar (hides : ∀ c, IsControl c → plain c = false) {d : Char}
    (h : d ∈ escapeChar plain c) : ¬ IsControl d := by
  rcases escapeChar_cases plain c with
    ⟨sign, named, written⟩ | ⟨written, itself, -, -⟩ | written
  · have visible : ∀ sign ∈ ['0', 't', 'r', 'n', '"', '\\'],
        ∀ d ∈ ['\\', sign], ¬ IsControl d := by
      simp [IsControl]
    rw [written] at h
    exact visible sign named d h
  · intro control
    rw [written, List.mem_singleton] at h
    rw [← h, hides d control] at itself
    cases itself
  · rw [written] at h
    rcases mem_numbered h with sign | ⟨k, small, rfl⟩
    · have visible : ∀ d ∈ ['\\', 'u', '\x7b', '\x7d'], ¬ IsControl d := by
        simp [IsControl]
      exact visible d sign
    · exact (digitChar_ne_quote k small).2

/-- What ends on its own escapes nothing, and leaves what is behind it as it is. -/
theorem escapes_append_iff (whole : ¬ Escapes cs) : Escapes (cs ++ rest) ↔ Escapes rest := by
  unfold Escapes trailingBackslashes at whole ⊢
  rw [List.reverse_append, List.takeWhile_append]
  split
  · next all =>
    rw [List.length_append, ← all]
    omega
  · rfl

/-- Nothing is escaped behind a character that is no backslash. -/
theorem not_escapes_concat {d : Char} (h : d ≠ '\\') : ¬ Escapes (cs ++ [d]) := by
  unfold Escapes trailingBackslashes
  simp [h]

/-- Without a quotation mark there is none that would have to be escaped. -/
theorem closed_of_not_mem (h : '"' ∉ cs) : Closed cs := by
  intro before after same
  rw [same] at h
  exact absurd (List.mem_append_right before List.mem_cons_self) h

theorem closed_pair (d : Char) : Closed ['\\', d] := by
  intro before after same
  cases before with
  | nil =>
    have first : '\\' = '"' := (List.cons.inj same).1
    exact absurd first (by decide)
  | cons b before =>
    obtain ⟨rfl, same⟩ := List.cons.inj same
    cases before with
    | nil => decide
    | cons d' before => exact absurd (List.cons.inj same).2.symm (by simp)

/-- Whole pieces stay closed when they are put together. -/
theorem Closed.append (closed : Closed cs) (whole : ¬ Escapes cs) (behind : Closed rest) :
    Closed (cs ++ rest) := by
  intro before after same
  rcases List.append_eq_append_iff.mp same with ⟨between, rfl, later⟩ | ⟨between, rfl, earlier⟩
  · exact (escapes_append_iff whole).mpr (behind between after later)
  · cases between with
    | nil => exact absurd (behind [] after earlier.symm) (by decide)
    | cons d between =>
      obtain ⟨rfl, -⟩ := List.cons.inj earlier
      exact closed before between rfl

/-- What stands for one character is a whole piece. -/
theorem closed_escapeChar (plain : Char → Bool) (c : Char) :
    Closed (escapeChar plain c) ∧ ¬ Escapes (escapeChar plain c) := by
  rcases escapeChar_cases plain c with
    ⟨sign, named, written⟩ | ⟨written, -, quote, backslash⟩ | written
  · have whole : ∀ sign ∈ ['0', 't', 'r', 'n', '"', '\\'], ¬ Escapes ['\\', sign] := by
      simp [Escapes, trailingBackslashes]
    rw [written]
    exact ⟨closed_pair sign, whole sign named⟩
  · have whole : ¬ Escapes ([] ++ [c]) := not_escapes_concat backslash
    rw [written]
    refine ⟨closed_of_not_mem ?_, whole⟩
    rw [List.mem_singleton]
    exact fun same => quote same.symm
  · rw [written]
    refine ⟨closed_of_not_mem ?_, not_escapes_concat (by decide)⟩
    intro inside
    rcases mem_numbered inside with sign | ⟨k, small, same⟩
    · exact absurd sign (by decide)
    · exact (digitChar_ne_quote k small).1 same.symm

theorem closed_escape (plain : Char → Bool) (cs : List Char) :
    Closed (escape plain cs) ∧ ¬ Escapes (escape plain cs) := by
  induction cs with
  | nil =>
    have whole : ¬ Escapes [] := by decide
    exact ⟨closed_of_not_mem List.not_mem_nil, whole⟩
  | cons c cs ih =>
    obtain ⟨closed, whole⟩ := closed_escapeChar plain c
    obtain ⟨closedBehind, wholeBehind⟩ := ih
    show Closed (escapeChar plain c ++ escape plain cs) ∧
      ¬ Escapes (escapeChar plain c ++ escape plain cs)
    exact ⟨closed.append whole closedBehind, mt (escapes_append_iff whole).mp wholeBehind⟩

/-- Whichever characters are printed as themselves, as long as no control character
is. -/
theorem writtenAs_escape (hides : ∀ c, IsControl c → plain c = false) (text : String) :
    WrittenAs text (escape plain text.toList) where
  noControl d hd := by
    obtain ⟨c, -, piece⟩ := List.mem_flatMap.mp hd
    exact not_isControl_of_mem_escapeChar hides piece
  closed := (closed_escape plain text.toList).1
  whole := (closed_escape plain text.toList).2
  reads := unescape_escape plain text.toList

/-- Control characters are hidden, in the range of ASCII and in the one behind
it. -/
theorem isVisible_of_isControl (h : IsControl c) : isVisible c = false := by
  rcases Nat.lt_or_ge c.toNat 0x80 with ascii | beyond
  · rw [isVisible_of_ascii ascii, decide_eq_false_iff_not]
    unfold IsControl at h
    omega
  · have first : c.toNat ≤ 0x9F := by
      unfold IsControl at h
      omega
    have hidden : inRanges c.toNat hiddenRangesBasic = true := by
      refine (inRanges_iff ascending_hiddenRangesBasic).mpr ⟨(0x7F, 0xA0), ?_, ?_, ?_⟩
      · exact List.mem_cons_self
      · omega
      · omega
    unfold isVisible
    rw [if_neg (by omega), if_pos (by omega), hidden]
    rfl

/-- A quoted text is the escaped text between two quotation marks. -/
theorem toList_quote (text : String) :
    (quote text).toList = '"' :: (escape isVisible text.toList ++ ['"']) := by
  simp only [quote, String.toList_append, String.toList_ofList]
  rfl

/-- What can be read back can be told apart. -/
theorem quote_injective {text text' : String} (h : quote text = quote text') : text = text' := by
  have inner := congrArg String.toList h
  rw [toList_quote, toList_quote, List.cons_inj_right, List.append_cancel_right_eq] at inner
  have read := unescape_escape isVisible text.toList
  rw [inner, unescape_escape] at read
  exact String.toList_inj.mp (Option.some.inj read).symm

end Text

/-! ## The display -/

namespace Display

/-- Some hook claims the value, its printer hints at a text, and `text` is the
summary. -/
def ShownAsText (program : Program) (settings : Settings) (registry : Registry) (v : Value)
    (text : String) : Prop :=
  ∃ printer, (registry.lookup program settings v).value = some printer ∧
    (printer.hint program).value = .string ∧ (printer.summary program settings).value = text

/-- What is shown as a text is the summary in quotes, at any depth. -/
theorem value_answer_of_shownAsText {program : Program} {settings : Settings}
    {registry : Registry} {v : Value} {text : String} (depth : Nat)
    (h : ShownAsText program settings registry v text) :
    (answer program settings registry ⟨depth, v⟩).value = Text.quote text := by
  obtain ⟨printer, found, hint, rfl⟩ := h
  rw [answer_of_some found, claimed, Traced.value_bind, Traced.value_bind, hint]
  rfl

/-- **Texts in quotes are unambiguous.** Whichever characters are printed as
themselves, as long as no control character is: what stands between the quotes shows
no control character and no double quote that is not escaped, does not escape the
one that closes it, and is read as the text. The display prints the visible
characters, and that is how a value which hints at a text is shown, on the outermost
level and on each other. So if two such values are shown alike, in whatever programs
and with whatever settings and hooks, they have one text. -/
theorem quoted_unambiguous :
    (∀ plain : Char → Bool, (∀ c, Text.IsControl c → plain c = false) →
      ∀ text : String, Text.WrittenAs text (Text.escape plain text.toList)) ∧
    (∀ c, Text.IsControl c → Text.isVisible c = false) ∧
    (∀ program settings registry v text, ShownAsText program settings registry v text →
      (∀ depth, ∃ body, Text.WrittenAs text body ∧
        (answer program settings registry ⟨depth, v⟩).value.toList = '"' :: (body ++ ['"'])) ∧
      (line program settings registry v).value =
        (answer program settings registry ⟨0, v⟩).value) ∧
    ∀ program settings registry v text program' settings' registry' v' text',
      ShownAsText program settings registry v text →
      ShownAsText program' settings' registry' v' text' →
      ∀ depth depth', (answer program settings registry ⟨depth, v⟩).value =
        (answer program' settings' registry' ⟨depth', v'⟩).value → text = text' := by
  refine ⟨?_, ?_, ?_, ?_⟩
  · intro plain hides text
    exact Text.writtenAs_escape hides text
  · intro c control
    exact Text.isVisible_of_isControl control
  · intro program settings registry v text shown
    refine ⟨?_, rfl⟩
    intro depth
    refine ⟨_, Text.writtenAs_escape (fun _ => Text.isVisible_of_isControl) text, ?_⟩
    rw [value_answer_of_shownAsText depth shown, Text.toList_quote]
  · intro program settings registry v text program' settings' registry' v' text' shown shown' depth
      depth' same
    rw [value_answer_of_shownAsText depth shown, value_answer_of_shownAsText depth' shown'] at same
    exact Text.quote_injective same

/-! ### A line feed and its escape -/

/-- Two strings: a line feed, and a backslash with an `n` behind it. -/
def lineFeedMemory : Snapshot where
  regions :=
    [⟨0x2000, [0x0A, 0x5C, 0x6E]⟩,
      ⟨0x1000, [1, 0x2000, 2, 0x2001].flatMap (LittleEndian.toBytes 8)⟩]

def lineFeedProgram : Program := ⟨textTypes, lineFeedMemory.memory⟩

/-- Shows every value as a string. -/
def textRegistry : Registry := ⟨[.always "text" (some .text) none]⟩

/-- A text that looks like the escape of another is not shown like it. A pointer to
a string is shown like the string, on whatever level, and so has its text. If no
character beyond ASCII is printed as itself, texts are still read back. -/
theorem quoted_unambiguous_line_feed :
    (∃ body, Text.WrittenAs "\n" body ∧
      (line lineFeedProgram {} textRegistry (.stored 0x1000 4)).value.toList =
        '"' :: (body ++ ['"'])) ∧
    (line lineFeedProgram {} textRegistry (.stored 0x1000 4)).value ≠
      (line lineFeedProgram {} textRegistry (.stored 0x1010 4)).value ∧
    (Printer.summary lineFeedProgram {} ⟨.held 0x1000 5, .text⟩).value = "\n" ∧
    Text.WrittenAs "é" ['\\', 'u', '\x7b', 'e', '9', '\x7d'] := by
  obtain ⟨written, -, quoted, sameText⟩ := quoted_unambiguous
  have lineFeed : ShownAsText lineFeedProgram {} textRegistry (.stored 0x1000 4) "\n" :=
    ⟨⟨.stored 0x1000 4, .text⟩, rfl, rfl, rfl⟩
  have lookalike : ShownAsText lineFeedProgram {} textRegistry (.stored 0x1010 4) "\\n" :=
    ⟨⟨.stored 0x1010 4, .text⟩, rfl, rfl, rfl⟩
  have pointer : ShownAsText lineFeedProgram {} textRegistry (.held 0x1000 5)
      (Printer.summary lineFeedProgram {} ⟨.held 0x1000 5, .text⟩).value :=
    ⟨⟨.held 0x1000 5, .text⟩, rfl, rfl, rfl⟩
  refine ⟨?_, ?_, ?_, ?_⟩
  · obtain ⟨shown, same⟩ := quoted _ _ _ _ _ lineFeed
    rw [same]
    exact shown 0
  · intro alike
    have one := sameText _ _ _ _ _ _ _ _ _ _ lineFeed lookalike 0 0 alike
    exact absurd one (by decide)
  · exact sameText _ _ _ _ _ _ _ _ _ _ pointer lineFeed 1 0 rfl
  · refine written (fun c => decide (0x20 ≤ c.toNat ∧ c.toNat < 0x7F)) ?_ "é"
    intro c control
    rw [decide_eq_false_iff_not]
    unfold Text.IsControl at control
    omega

end Display

end HeapLens
