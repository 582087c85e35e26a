import HeapLens.Proofs.LogLines
import HeapLens.Proofs.ThroughPointer
import Mathlib.Tactic.ByContra

/-!
# What a string shows

The summary of a string and the hint at how it is shown are made apart from each
other, and both look whether the value is null (`Program.IsNull`). Apart from that a
string is a length and an address (`Program.Promises`), and the order in which these
are tested decides:

> the address is null: nothing is shown, whatever the length; else the length is
> negative: the placeholder; else the bytes are read, no more of them than the limit
> says (`result_bufferText`).

If there is no length or no address, a look has failed
(`isNull_or_promises_or_fails`), and the placeholder stands for it. On one line a
text stands in quotes. These cannot be mistaken for a part of it
(`Text.quote_ne_self`), so what stands without quotes is null.
-/

namespace HeapLens

/-- A pointer that is read as null. -/
def Program.IsNull (program : Program) (v : Value) : Prop :=
  program.isPointer v = true ∧ (program.readPointer v).result = .ok 0

/-- The struct of a string is reached. It says that there are `length` bytes at
`addr`; the number may be negative and the address null. -/
def Program.Promises (program : Program) (subject : Value) (length : Int) (addr : Nat) : Prop :=
  ∃ body data, program.Reaches subject body ∧ (program.readCount body .length).result = .ok length ∧
    program.runtimeField body .data = .ok data ∧
    (program.readPointer data).result = .ok addr

variable {program : Program} {settings : Settings} {subject : Value} {length : Int} {addr : Nat}

/-- There is no fourth case. -/
theorem isNull_or_promises_or_fails (program : Program) (subject : Value) :
    program.IsNull subject ∨ (∃ length addr, program.Promises subject length addr) ∨
      ∃ fault, OpenFails program subject .length .data fault := by
  rcases opens_or_null_or_fails program subject .length .data with
    ⟨data, length, body, addr, reached, hlength, hdata, haddr, -⟩ | null | failed
  · exact .inr (.inl ⟨length, addr, body, data, reached, hlength, hdata, haddr⟩)
  · cases null with
    | container pointer null => exact .inl ⟨pointer, null⟩
    | buffer reached counted found null =>
      exact .inr (.inl ⟨_, 0, _, _, reached, counted, found, null⟩)
  · exact .inr (.inr failed)

/-! ## The hint -/

/-- The test for null finds a null pointer, and takes a pointer that cannot be read
for none. -/
theorem Program.value_isNullPointer_iff {v : Value} :
    (program.isNullPointer v).value = true ↔ program.IsNull v := by
  unfold isNullPointer IsNull
  split
  · next pointer =>
    rw [Traced.value_bind, Look.value_run]
    cases (program.readPointer v).result with
    | error fault => simp
    | ok addr => simp [pointer]
  · next other =>
    simp [other]

namespace Printer

/-- A null pointer has no hint, so that it is shown without quotes. -/
theorem value_hint_of_isNull (h : program.IsNull subject) :
    (hint program ⟨subject, .text⟩).value = .plain := by
  unfold hint
  rw [Traced.value_bind, Program.value_isNullPointer_iff.mpr h]
  rfl

/-- Everything else has the hint of a text, also what fails to be read. -/
theorem value_hint_of_not_isNull (h : ¬ program.IsNull subject) :
    (hint program ⟨subject, .text⟩).value = .string := by
  have other : (program.isNullPointer subject).value = false := by
    rw [← Bool.not_eq_true, Program.value_isNullPointer_iff]
    exact h
  unfold hint
  rw [Traced.value_bind, other]
  rfl

/-! ## The summary -/

/-- For a null pointer the text of the settings stands. -/
theorem result_decode_of_isNull (h : program.IsNull subject) :
    (decode program settings ⟨subject, .text⟩).result = .ok settings.nullText := by
  unfold decode
  rw [Look.result_bind_of_ok (result_openContainer_eq_none_iff.mpr h)]
  rfl

/-- Of a buffer that is not null so many bytes are read as there are, or as the
limit says. -/
theorem result_bufferText {data : Value} (read : (program.readPointer data).result = .ok addr)
    (notNull : addr ≠ 0) (notNegative : 0 ≤ length) :
    (bufferText program settings data length).result =
      (program.memory.read addr (min length.toNat settings.maxTextBytes)).map fun bytes =>
        Text.Utf8.lossy bytes ++ if settings.maxTextBytes < length then "..." else "" := by
  have bytes : ∀ count, (program.readBytes data count).result = program.memory.read addr count := by
    intro count
    unfold Program.readBytes
    rw [Look.result_bind_of_ok read, if_neg (fun both => notNull both.1)]
    rfl
  unfold bufferText
  rw [if_neg (Int.not_lt.mpr notNegative)]
  split
  · next long =>
    rw [Look.result_bind, bytes, Nat.min_eq_right (by omega)]
    cases program.memory.read addr settings.maxTextBytes <;> rfl
  · next short =>
    rw [Look.result_bind, bytes, Nat.min_eq_left (by omega)]
    cases program.memory.read addr length.toNat with
    | error fault => rfl
    | ok bytes => simp [Except.map, bind, Except.bind]

/-- The address is tested first: at null there is no text, whatever its length. -/
theorem result_decode_of_promises (settings : Settings)
    (h : program.Promises subject length addr) :
    ∃ data, (program.readPointer data).result = .ok addr ∧
      (decode program settings ⟨subject, .text⟩).result =
        if addr = 0 then .ok "" else (bufferText program settings data length).result := by
  obtain ⟨body, data, reached, hlength, hdata, haddr⟩ := h
  have hopened := result_openContainer_eq_some_iff.mpr reached
  have found : (liftM (program.runtimeField body .data) : Look Value).result = .ok data := hdata
  refine ⟨data, haddr, ?_⟩
  unfold decode
  rw [Look.result_bind_of_ok hopened]
  dsimp only
  rw [decodeText_eq, Look.result_bind_of_ok hlength, Look.result_bind_of_ok found,
    Look.result_bind_of_ok haddr]
  split <;> rfl

/-- A fault on the way to the address is the fault of decoding. -/
theorem result_decode_of_openFails {fault : Fault}
    (h : OpenFails program subject .length .data fault) :
    (decode program settings ⟨subject, .text⟩).result = .error fault := by
  unfold decode
  cases h with
  | container pointer failed =>
    exact Look.result_bind_of_error (result_openContainer_eq_error_iff.mpr ⟨pointer, failed⟩) _
  | count reached failed =>
    rw [Look.result_bind_of_ok (result_openContainer_eq_some_iff.mpr reached)]
    exact Look.result_bind_of_error failed _
  | @buffer body number reached counted failed =>
    have missing : (liftM (program.runtimeField body .data) : Look Value).result = .error fault :=
      failed
    rw [Look.result_bind_of_ok (result_openContainer_eq_some_iff.mpr reached)]
    dsimp only
    rw [decodeText_eq, Look.result_bind_of_ok counted, Look.result_bind_of_error missing]
  | @data body data number reached counted found failed =>
    have there : (liftM (program.runtimeField body .data) : Look Value).result = .ok data := found
    rw [Look.result_bind_of_ok (result_openContainer_eq_some_iff.mpr reached)]
    dsimp only
    rw [decodeText_eq, Look.result_bind_of_ok counted, Look.result_bind_of_ok there,
      Look.result_bind_of_error failed]

theorem value_summary_of_ok {text : String}
    (h : (decode program settings ⟨subject, .text⟩).result = .ok text) :
    (summary program settings ⟨subject, .text⟩).value = text := by
  unfold summary
  rw [Look.value_orNote, h]
  rfl

theorem value_summary_of_error {fault : Fault}
    (h : (decode program settings ⟨subject, .text⟩).result = .error fault) :
    (summary program settings ⟨subject, .text⟩).value = "<str?>" := by
  unfold summary
  rw [Look.value_orNote, h]
  rfl

/-- What is shown of a text of `length` bytes at `addr`. -/
structure ShowsPromised (program : Program) (settings : Settings) (subject : Value) (length : Int)
    (addr : Nat) : Prop where
  null : addr = 0 → (summary program settings ⟨subject, .text⟩).value = ""
  negative : addr ≠ 0 → length < 0 → (summary program settings ⟨subject, .text⟩).value = "<str?>"
  readable : addr ≠ 0 → 0 ≤ length → ∀ bytes,
    program.memory.read addr (min length.toNat settings.maxTextBytes) = .ok bytes →
    (summary program settings ⟨subject, .text⟩).value =
      Text.Utf8.lossy bytes ++ if settings.maxTextBytes < length then "..." else ""
  unreadable : addr ≠ 0 → 0 ≤ length → ∀ fault,
    program.memory.read addr (min length.toNat settings.maxTextBytes) = .error fault →
    (summary program settings ⟨subject, .text⟩).value = "<str?>"

/-- The cases of a text that is promised, in the order of the tests. -/
theorem showsPromised (h : program.Promises subject length addr) :
    ShowsPromised program settings subject length addr := by
  obtain ⟨data, haddr, decoded⟩ := result_decode_of_promises settings h
  refine ⟨?_, ?_, ?_, ?_⟩
  · intro null
    rw [if_pos null] at decoded
    exact value_summary_of_ok decoded
  · intro notNull negative
    rw [if_neg notNull, bufferText, if_pos negative] at decoded
    exact value_summary_of_error decoded
  · intro notNull notNegative bytes read
    rw [if_neg notNull, result_bufferText haddr notNull notNegative, read] at decoded
    exact value_summary_of_ok decoded
  · intro notNull notNegative fault read
    rw [if_neg notNull, result_bufferText haddr notNull notNegative, read] at decoded
    exact value_summary_of_error decoded

end Printer

/-! ## The display -/

namespace Text

/-- No character is left out of a quoted text. -/
theorem one_le_length_escapeChar (plain : Char → Bool) (c : Char) :
    1 ≤ (escapeChar plain c).length := by
  unfold escapeChar numbered
  split_ifs <;> simp

theorem length_le_length_escape (plain : Char → Bool) (cs : List Char) :
    cs.length ≤ (escape plain cs).length := by
  induction cs with
  | nil => exact Nat.le_refl 0
  | cons c cs ih =>
    have first := one_le_length_escapeChar plain c
    show cs.length + 1 ≤ (escapeChar plain c ++ escape plain cs).length
    rw [List.length_append]
    omega

/-- A text in quotes is longer than the text. -/
theorem quote_ne_self (s : String) : quote s ≠ s := by
  intro same
  have inner := length_le_length_escape isVisible s.toList
  have lengths := congrArg (fun t => t.toList.length) same
  simp only [quote, String.toList_append, String.toList_ofList, List.length_append] at lengths
  have mark : "\"".toList.length = 1 := by decide
  omega

end Text

/-- A string that the runtime's hook claims stands in quotes, unless it is null. -/
theorem Display.value_line_of_text {registry : Registry}
    (claims : Hook.runtime.ClaimsFirst program settings registry subject)
    (text : Container.ofValue? program settings subject = some .text) :
    (program.IsNull subject → (line program settings registry subject).value =
      (Printer.summary program settings ⟨subject, .text⟩).value) ∧
    (¬ program.IsNull subject → (line program settings registry subject).value =
      Text.quote (Printer.summary program settings ⟨subject, .text⟩).value) := by
  obtain ⟨deeper, outermost⟩ := exists_line_eq_onLevel program settings registry
  obtain ⟨c, hc, found⟩ := Hook.exists_container_of_runtime claims
  obtain rfl : c = .text := Option.some.inj (hc.symm.trans text)
  have claimed : (line program settings registry subject).value =
      (claimed program settings deeper ⟨subject, .text⟩).value := by
    rw [outermost, onLevel, Traced.value_bind, found]
    rfl
  constructor
  · intro null
    rw [claimed, Display.claimed, Traced.value_bind, Traced.value_bind,
      Printer.value_hint_of_isNull null]
    rfl
  · intro notNull
    rw [claimed, Display.claimed, Traced.value_bind, Traced.value_bind,
      Printer.value_hint_of_not_isNull notNull]
    rfl

/-- **What a string shows.** A null pointer shows as the text for null and has no
hint; everything else has the hint of a text. A string whose length and address are
known shows as nothing if the address is null, as the placeholder if the length is
negative, and else as its bytes, read leniently, no more of them than the limit
says, with an ellipsis if there are more; or as the placeholder if they cannot be
read, which is not so for no bytes at all. Any failure before that gives the
placeholder. On one line a string that the runtime's hook claims is without quotes
exactly if it is null. -/
theorem text_summary_hint (types : TypeTable) (snapshot : Snapshot) (settings : Settings)
    (subject : Value) :
    let program : Program := ⟨types, snapshot.memory⟩
    let printer : Printer := ⟨subject, .text⟩
    let summary := (printer.summary program settings).value
    let hint := (printer.hint program).value
    (program.IsNull subject → summary = settings.nullText ∧ hint = .plain) ∧
    (¬ program.IsNull subject → hint = .string) ∧
    (∀ length addr, program.Promises subject length addr →
      (addr = 0 → summary = "") ∧
      (addr ≠ 0 → length < 0 → summary = "<str?>") ∧
      (addr ≠ 0 → 0 ≤ length →
        (∀ bytes, snapshot.read addr (min length.toNat settings.maxTextBytes) = .ok bytes →
          summary = Text.Utf8.lossy bytes ++ if settings.maxTextBytes < length then "..." else "") ∧
        (∀ fault, snapshot.read addr (min length.toNat settings.maxTextBytes) = .error fault →
          summary = "<str?>") ∧
        (min length.toNat settings.maxTextBytes = 0 →
          snapshot.read addr (min length.toNat settings.maxTextBytes) = .ok []))) ∧
    (∀ fault, OpenFails program subject .length .data fault → summary = "<str?>") ∧
    (program.IsNull subject ∨ (∃ length addr, program.Promises subject length addr) ∨
      ∃ fault, OpenFails program subject .length .data fault) ∧
    (∀ registry : Registry, Hook.runtime.ClaimsFirst program settings registry subject →
      Container.ofValue? program settings subject = some .text →
      (program.IsNull subject → (Display.line program settings registry subject).value = summary) ∧
      (¬ program.IsNull subject →
        (Display.line program settings registry subject).value = Text.quote summary) ∧
      ((Display.line program settings registry subject).value = summary ↔
        program.IsNull subject)) := by
  intro program printer summary hint
  refine ⟨?_, Printer.value_hint_of_not_isNull, ?_, ?_, isNull_or_promises_or_fails program subject,
    ?_⟩
  · intro null
    exact ⟨Printer.value_summary_of_ok (Printer.result_decode_of_isNull null),
      Printer.value_hint_of_isNull null⟩
  · intro length addr promises
    have shows : Printer.ShowsPromised program settings subject length addr :=
      Printer.showsPromised promises
    refine ⟨shows.null, shows.negative, fun notNull notNegative => ?_⟩
    exact ⟨shows.readable notNull notNegative, shows.unreadable notNull notNegative,
      fun none => if_pos none⟩
  · intro fault failed
    exact Printer.value_summary_of_error (Printer.result_decode_of_openFails failed)
  · intro registry claims text
    obtain ⟨plain, quoted⟩ := Display.value_line_of_text claims text
    refine ⟨plain, quoted, ?_, plain⟩
    intro same
    by_contra notNull
    exact Text.quote_ne_self _ ((quoted notNull).symm.trans same)

/-! ### Strings with odd lengths -/

/-- The types of a string, and of a pointer to it. -/
def textTypes : TypeTable :=
  let types := TypeTable.empty.add (TypeTable.primitiveEntry "i64" 8 { signed := true })
  let types := types.add (TypeTable.primitiveEntry "char" 1 { char := true })
  let types := types.add (TypeTable.pointerEntry 2)
  let types := types.add (types.layOut "__lang_rt_Str" false [⟨"len", 1⟩, ⟨"data", 3⟩])
  types.add (TypeTable.pointerEntry 4)

/-- Three strings: one of five bytes, one of minus one byte, and one of minus one
byte at null. -/
def textMemory : Snapshot where
  regions :=
    [⟨0x2000, [0x68, 0x65, 0x6C, 0x6C, 0x6F]⟩,
      ⟨0x1000, [5, 0x2000, 0xFFFFFFFFFFFFFFFF, 0x2000, 0xFFFFFFFFFFFFFFFF, 0].flatMap
        (LittleEndian.toBytes 8)⟩]

def textProgram : Program := ⟨textTypes, textMemory.memory⟩

/-- At most four bytes are read. -/
def textSettings : Settings := { maxTextBytes := 4 }

/-- The limit cuts the first; of the others the address is looked at before the
length. -/
theorem text_summary_hint_odd :
    let summary (v : Value) := (Printer.summary textProgram textSettings ⟨v, .text⟩).value
    let line (v : Value) := (Display.line textProgram textSettings ⟨[.runtime]⟩ v).value
    summary (.stored 0x1000 4) = "hell..." ∧ summary (.stored 0x1010 4) = "<str?>" ∧
      summary (.stored 0x1020 4) = "" ∧
      line (.held 0 5) = "None" ∧ line (.held 0x1000 5) = Text.quote "hell..." := by
  intro summary line
  have shown := text_summary_hint textTypes textMemory textSettings
  have cut : textProgram.Promises (.stored 0x1000 4) 5 0x2000 :=
    ⟨.stored 0x1000 4, .stored 0x1008 3, .itself rfl, rfl, rfl, rfl⟩
  have behind : textProgram.Promises (.held 0x1000 5) 5 0x2000 :=
    ⟨.stored 0x1000 4, .stored 0x1008 3, .target rfl rfl (by decide), rfl, rfl, rfl⟩
  have negative : textProgram.Promises (.stored 0x1010 4) (-1) 0x2000 :=
    ⟨.stored 0x1010 4, .stored 0x1018 3, .itself rfl, rfl, rfl, rfl⟩
  have nowhere : textProgram.Promises (.stored 0x1020 4) (-1) 0 :=
    ⟨.stored 0x1020 4, .stored 0x1028 3, .itself rfl, rfl, rfl, rfl⟩
  have null : textProgram.IsNull (.held 0 5) := ⟨rfl, rfl⟩
  have notNull : ¬ textProgram.IsNull (.held 0x1000 5) := by
    rintro ⟨-, read⟩
    cases read
  have read : textMemory.read 0x2000 (min (5 : Int).toNat textSettings.maxTextBytes) =
      .ok [0x68, 0x65, 0x6C, 0x6C] := rfl
  have text : Text.Utf8.lossy [0x68, 0x65, 0x6C, 0x6C] ++
      (if textSettings.maxTextBytes < (5 : Int) then "..." else "") = "hell..." := by decide
  have recognised : ∀ v : Value, v.type = 5 →
      Container.ofValue? textProgram textSettings v = some .text := by
    rintro ⟨place, -⟩ rfl
    rfl
  have claims : ∀ v : Value, v.type = 5 →
      Hook.runtime.ClaimsFirst textProgram textSettings ⟨[.runtime]⟩ v := by
    intro v hv
    refine ⟨[], [], rfl, fun _ h => absurd h List.not_mem_nil, ?_⟩
    show (Container.ofValue? textProgram textSettings v).map _ ≠ none
    rw [recognised v hv]
    exact Option.some_ne_none _
  obtain ⟨plain, -, -, -, -, lineOfNull⟩ := shown (.held 0 5)
  obtain ⟨-, -, promised, -, -, lineOfPointer⟩ := shown (.held 0x1000 5)
  have pointed := ((promised _ _ behind).2.2 (by decide) (by decide)).1 _ read
  refine ⟨?_, ?_, ?_, ?_, ?_⟩
  · exact ((((shown _).2.2.1 _ _ cut).2.2 (by decide) (by decide)).1 _ read).trans text
  · exact ((shown _).2.2.1 _ _ negative).2.1 (by decide) (by decide)
  · exact ((shown _).2.2.1 _ _ nowhere).1 rfl
  · exact ((lineOfNull _ (claims _ rfl) (recognised _ rfl)).1 null).trans (plain null).1
  · rw [← text, ← pointed]
    exact (lineOfPointer _ (claims _ rfl) (recognised _ rfl)).2.1 notNull

end HeapLens
