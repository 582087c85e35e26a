/-!
# Reading UTF-8

Bytes are cut into *pieces*: characters, and flaws where no character can be read. A
flaw is as long as possible, that is, the longest beginning of a well-formed
sequence, or a single byte that begins none. `lossy` puts one replacement character
for each flaw, `strict` refuses the first.

The first byte of a sequence decides how many follow and between which bounds the
second one lies (this excludes overlong forms, surrogates and everything above the
last code point); every later byte lies between `0x80` and `0xBF`.
-/

namespace HeapLens.Text.Utf8

/-- What a run of bytes was read as. -/
inductive Piece where
  | char (c : Char)
  /-- `length` bytes that are no character; `unfinished` if more bytes might have
  made them one. -/
  | flaw (length : Nat) (unfinished : Bool)
  deriving DecidableEq, Repr

/-- A sequence that has begun and is not complete. -/
structure Sequence where
  /-- Bytes read so far. -/
  seen : Nat
  /-- Bytes due after the next one. -/
  later : Nat
  /-- The bits of the code point read so far. -/
  bits : Nat
  /-- Bounds of the next byte. -/
  low : UInt8 := 0x80
  high : UInt8 := 0xBF
  deriving DecidableEq, Repr

/-- How a byte that begins something is read. -/
def lead (b : UInt8) : Piece ⊕ Sequence :=
  if b < 0x80 then .inl (.char (Char.ofNat b.toNat))
  else if b < 0xC2 then .inl (.flaw 1 false)
  else if b < 0xE0 then .inr ⟨1, 0, b.toNat - 0xC0, 0x80, 0xBF⟩
  else if b = 0xE0 then .inr ⟨1, 1, 0, 0xA0, 0xBF⟩
  else if b = 0xED then .inr ⟨1, 1, 0xD, 0x80, 0x9F⟩
  else if b < 0xF0 then .inr ⟨1, 1, b.toNat - 0xE0, 0x80, 0xBF⟩
  else if b = 0xF0 then .inr ⟨1, 2, 0, 0x90, 0xBF⟩
  else if b < 0xF4 then .inr ⟨1, 2, b.toNat - 0xF0, 0x80, 0xBF⟩
  else if b = 0xF4 then .inr ⟨1, 2, 4, 0x80, 0x8F⟩
  else .inl (.flaw 1 false)

namespace Sequence

/-- Whether `b` may come next. -/
def admits (s : Sequence) (b : UInt8) : Bool := decide (s.low ≤ b ∧ b ≤ s.high)

/-- The sequence with one more byte: a character when none was due after it. -/
def extend (s : Sequence) (b : UInt8) : Piece ⊕ Sequence :=
  let bits := s.bits * 64 + b.toNat % 64
  match s.later with
  | 0 => .inl (.char (Char.ofNat bits))
  | later + 1 => .inr ⟨s.seen + 1, later, bits, 0x80, 0xBF⟩

end Sequence

/-- The pieces of bytes that come after what `begun` has read. -/
def piecesAfter : (begun : Option Sequence) → List UInt8 → List Piece
  | none, [] => []
  | some s, [] => [.flaw s.seen true]
  | none, b :: bytes =>
    match lead b with
    | .inl piece => piece :: piecesAfter none bytes
    | .inr s => piecesAfter (some s) bytes
  | some s, b :: bytes =>
    if s.admits b then
      match s.extend b with
      | .inl piece => piece :: piecesAfter none bytes
      | .inr t => piecesAfter (some t) bytes
    else
      .flaw s.seen false ::
        match lead b with
        | .inl piece => piece :: piecesAfter none bytes
        | .inr t => piecesAfter (some t) bytes

def pieces (bytes : List UInt8) : List Piece := piecesAfter none bytes

/-! ## Reading everything -/

/-- Stands for bytes that are no character. -/
def replacement : Char := '\uFFFD'

def Piece.shown : Piece → Char
  | .char c => c
  | .flaw _ _ => replacement

/-- The text of `bytes`, with one replacement character for each flaw. -/
def lossy (bytes : List UInt8) : String := String.ofList ((pieces bytes).map Piece.shown)

/-! ## Reading text only -/

/-- Why bytes are not text. -/
inductive Flaw where
  /-- From `index` on, `length` bytes cannot be part of any text. -/
  | invalid (length index : Nat)
  /-- The bytes end within the sequence that begins at `index`. -/
  | incomplete (index : Nat)
  deriving DecidableEq, Repr

def Flaw.message : Flaw → String
  | .invalid length index => s!"invalid utf-8 sequence of {length} bytes from index {index}"
  | .incomplete index => s!"incomplete utf-8 byte sequence from index {index}"

/-- The characters of pieces without a flaw; `index` is where the first of them
begins. -/
def charsFrom (index : Nat) : List Piece → Except Flaw (List Char)
  | [] => .ok []
  | .char c :: rest => (charsFrom (index + c.utf8Size) rest).map (c :: ·)
  | .flaw length unfinished :: _ =>
    .error (if unfinished then .incomplete index else .invalid length index)

/-- The text of `bytes`, if they are text. -/
def strict (bytes : List UInt8) : Except Flaw String :=
  (charsFrom 0 (pieces bytes)).map String.ofList

end HeapLens.Text.Utf8
