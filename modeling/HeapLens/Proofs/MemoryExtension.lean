import HeapLens.Proofs.CursorYields
import HeapLens.Proofs.SnapshotHistory
import HeapLens.Value.Parts

/-!
# More memory: what was decoded stays

A memory extends another if it answers all that the other answers, in the same way.
Adding a region to a snapshot extends it (`extends_of_add`): the new region lies
apart from those that were there, so it is not the one in which an old address is
looked for.

> `KeptBy`: what the one look comes to, the other comes to as well.

All that is read of a value is kept when memory is extended, by one lemma for each
operation, which follows the operation's looks. A fault may go away, and then a walk
that ended there goes on: a cursor that gave a child gives the same child and stands
at the same place (`next_extends`), so that its children are a prefix of those it
gives now.
-/

namespace HeapLens

/-! ## What is kept -/

namespace Look

/-- What `x` comes to, `y` comes to as well. Of faults nothing is said. -/
def KeptBy (x y : Look α) : Prop := ∀ a, x.result = .ok a → y.result = .ok a

theorem KeptBy.refl (x : Look α) : x.KeptBy x := fun _ h => h

/-- A chain of looks is kept if each of its steps is, from the same result on. -/
theorem KeptBy.bind {x y : Look α} {f g : α → Look β} (h : x.KeptBy y)
    (hrest : ∀ a, (f a).KeptBy (g a)) : (x >>= f).KeptBy (y >>= g) := by
  intro b hb
  obtain ⟨a, hx, hf⟩ := exists_of_result_bind hb
  rw [result_bind_of_ok (h a hx)]
  exact hrest a b hf

theorem KeptBy.map {x y : Look α} (h : x.KeptBy y) (f : α → β) : (f <$> x).KeptBy (f <$> y) := by
  rw [← bind_pure_comp, ← bind_pure_comp]
  exact h.bind fun a => .refl _

end Look

/-- All that `before` answers is answered by `after`, in the same way. -/
def Memory.Extends (before after : Memory) : Prop :=
  ∀ {addr len : Nat} {bytes : List UInt8},
    before.read addr len = .ok bytes → after.read addr len = .ok bytes

/-- A snapshot with one more region extends the one without it. -/
theorem Snapshot.extends_of_add {s t : Snapshot} {start : Nat} {bytes : List UInt8} (h : s.Valid)
    (hadd : s.add start bytes = .ok t) : s.memory.Extends t.memory := by
  intro addr len found hread
  change s.read addr len = .ok found at hread
  show t.read addr len = .ok found
  by_cases hne : bytes = []
  · subst hne
    rw [add_nil] at hadd
    cases hadd
    exact hread
  · rcases Nat.eq_zero_or_pos len with rfl | hlen
    · exact hread
    · -- The region that has the bytes is one of the regions of both.
      obtain ⟨r, hr, hcovers⟩ := (exists_read_iff h hlen).mp ⟨found, hread⟩
      obtain ⟨-, -, ht⟩ := (add_eq_ok_iff h hne).mp hadd
      have hrt : r ∈ t.regions := by
        rw [ht]
        exact mem_place.mpr (Or.inr hr)
      rw [read_of_covers (h.add hadd) hrt hlen hcovers, ← hread,
        read_of_covers h hr hlen hcovers]

open Look (KeptBy)

variable {types : TypeTable} {before after : Memory}

/-! ## Reading -/

namespace Memory.Extends

/-- This is all that is asked of the memories. The operations below are followed
down to it. -/
theorem readBytes (h : before.Extends after) (addr len : Nat) :
    (before.readBytes addr len).KeptBy (after.readBytes addr len) := fun _ => h

/-- A size that no number has is a fault in both memories. -/
theorem readUInt (h : before.Extends after) (addr size : Nat) :
    (before.readUInt addr size).KeptBy (after.readUInt addr size) := by
  unfold Memory.readUInt
  split
  · exact (h.readBytes addr size).map _
  · exact .refl _

/-- A scalar that is given by its bits does not depend on memory at all. -/
theorem readScalar (h : before.Extends after) (v : Value) (size : Nat) :
    (Program.readScalar ⟨types, before⟩ v size).KeptBy
      (Program.readScalar ⟨types, after⟩ v size) := by
  obtain ⟨place, t⟩ := v
  cases place with
  | stored addr => exact h.readUInt addr size
  | held bits => exact .refl _

/-- Only the bytes come from memory. Whether they are an address the type tells. -/
theorem readPointer (h : before.Extends after) (v : Value) :
    (Program.readPointer ⟨types, before⟩ v).KeptBy (Program.readPointer ⟨types, after⟩ v) := by
  unfold Program.readPointer Program.resolve
  dsimp only
  split
  · exact h.readScalar v _
  · split
    · exact h.readScalar v _
    · exact .refl _
  · exact .refl _

theorem readInt (h : before.Extends after) (v : Value) :
    (Program.readInt ⟨types, before⟩ v).KeptBy (Program.readInt ⟨types, after⟩ v) := by
  unfold Program.readInt Program.resolve
  dsimp only
  split
  · split
    · exact .refl _
    · exact (h.readScalar v _).bind fun x => .refl _
  · exact (h.readScalar v _).bind fun x => .refl _
  · exact .refl _

/-- The bytes behind a pointer. -/
theorem readTarget (h : before.Extends after) (v : Value) (len : Nat) :
    (Program.readBytes ⟨types, before⟩ v len).KeptBy (Program.readBytes ⟨types, after⟩ v len) := by
  refine (h.readPointer v).bind ?_
  intro addr
  split
  · exact .refl _
  · exact h.readBytes addr len

/-- A text that was made of a scalar is made of the same scalar again. -/
theorem scalarText (h : before.Extends after) (v : Value) :
    (Program.scalarText ⟨types, before⟩ v).KeptBy (Program.scalarText ⟨types, after⟩ v) := by
  unfold Program.scalarText Program.resolve
  dsimp only
  split
  · exact (h.readScalar v _).bind fun x => .refl _
  · exact (h.readScalar v _).bind fun x => .refl _
  · exact .refl _

/-! ## Parts -/

/-- A pointer that led somewhere leads to the same place. -/
theorem dereference (h : before.Extends after) (v : Value) :
    (Program.dereference ⟨types, before⟩ v).KeptBy (Program.dereference ⟨types, after⟩ v) := by
  unfold Program.dereference Program.shape Program.resolve
  dsimp only
  split
  · exact (h.readPointer v).bind fun addr => .refl _
  · exact .refl _

/-- An element is where it was, since its address is counted from the same
pointer. -/
theorem index (h : before.Extends after) (v : Value) (i : Nat) :
    (Program.index ⟨types, before⟩ v i).KeptBy (Program.index ⟨types, after⟩ v i) := by
  unfold Program.index Program.shape Program.resolve
  dsimp only
  split
  · exact (h.readPointer v).bind fun base => .refl _
  · exact .refl _
  · exact .refl _

/-- Elements are kept all together: each was found, and is found again. -/
theorem elements (h : before.Extends after) (v : Value) (count : Nat) : ∀ i,
    (Program.elements ⟨types, before⟩ v i count).KeptBy
      (Program.elements ⟨types, after⟩ v i count) := by
  induction count with
  | zero =>
    intro i
    exact .refl _
  | succ count ih =>
    intro i
    have child : (Program.elementChild ⟨types, before⟩ v i).KeptBy
        (Program.elementChild ⟨types, after⟩ v i) := (h.index v i).bind fun _ => .refl _
    exact child.bind fun _ => (ih (i + 1)).bind fun _ => .refl _

/-- Of a struct nothing is read. Of an array every element has to be found. -/
theorem parts (h : before.Extends after) (v : Value) (limit : Nat) :
    (Program.parts ⟨types, before⟩ v limit).KeptBy (Program.parts ⟨types, after⟩ v limit) := by
  unfold Program.parts Program.shape Program.resolve
  dsimp only
  split
  · exact .refl _
  · exact h.elements v _ 0
  · exact .refl _

/-! ## Containers -/

theorem readCount (h : before.Extends after) (v : Value) (f : RuntimeField) :
    (Program.readCount ⟨types, before⟩ v f).KeptBy (Program.readCount ⟨types, after⟩ v f) :=
  KeptBy.bind (.refl _) fun count => h.readInt count

/-- A container that opened opens as the same struct, or as null again. -/
theorem openContainer (h : before.Extends after) (v : Value) :
    (Program.openContainer ⟨types, before⟩ v).KeptBy (Program.openContainer ⟨types, after⟩ v) := by
  have same : Program.isPointer ⟨types, after⟩ v = Program.isPointer ⟨types, before⟩ v := rfl
  unfold Program.openContainer
  rw [same]
  split
  · refine KeptBy.bind (h.readPointer v) ?_
    intro addr
    split
    · exact .refl _
    · exact (h.dereference v).map some
  · exact .refl _

/-- A text is made of a length, of an address, and of the bytes there, which are all
kept. -/
theorem decodeText (h : before.Extends after) (settings : Settings) (v : Value) :
    (Printer.decodeText ⟨types, before⟩ settings v).KeptBy
      (Printer.decodeText ⟨types, after⟩ settings v) := by
  refine (h.readCount v .length).bind ?_
  intro length
  refine KeptBy.bind (.refl _) ?_
  intro data
  refine (h.readPointer data).bind ?_
  intro addr
  -- Null, a negative length, more bytes than are read of a string, and a string
  -- that is read whole.
  split
  · exact .refl _
  · split
    · exact .refl _
    · split
      · exact (h.readTarget data _).bind fun bytes => .refl _
      · exact (h.readTarget data _).bind fun bytes => .refl _

/-- A summary that was made is made again. A placeholder stands for a fault, so it
is no such summary. -/
theorem decode (h : before.Extends after) (settings : Settings) (p : Printer) :
    (p.decode ⟨types, before⟩ settings).KeptBy (p.decode ⟨types, after⟩ settings) := by
  refine (h.openContainer p.subject).bind ?_
  intro opened
  cases opened with
  | none => exact .refl _
  | some v =>
    obtain ⟨subject, container⟩ := p
    cases container with
    | text => exact h.decodeText settings v
    | list elem => exact (h.readCount v .length).bind fun length => .refl _
    | dict key value => exact (h.readCount v .length).bind fun length => .refl _

theorem reaches {subject body : Value} (h : before.Extends after)
    (reached : Program.Reaches ⟨types, before⟩ subject body) :
    Program.Reaches ⟨types, after⟩ subject body :=
  result_openContainer_eq_some_iff.mp
    (h.openContainer subject _ (result_openContainer_eq_some_iff.mpr reached))

/-- A container that opened opens again, with the same count and the same buffer. -/
theorem opens {subject data : Value} {count buffer : RuntimeField} {number : Int}
    (h : before.Extends after) (hopens : Opens ⟨types, before⟩ subject count buffer data number) :
    Opens ⟨types, after⟩ subject count buffer data number := by
  obtain ⟨body, addr, reached, hcount, hdata, haddr, hne⟩ := hopens
  exact ⟨body, addr, h.reaches reached, h.readCount body count _ hcount, hdata,
    h.readPointer data _ haddr, hne⟩

/-- A slot that was vacant is vacant again, and one with an entry has the same
entry. -/
theorem readSlot (h : before.Extends after) (settings : Settings) (slots : Value) (slot : Nat) :
    (DictCursor.readSlot ⟨types, before⟩ settings slots slot).KeptBy
      (DictCursor.readSlot ⟨types, after⟩ settings slots slot) := by
  refine (h.index slots slot).bind ?_
  intro here
  refine (h.readCount here .status).bind ?_
  intro status
  split
  · exact .refl _
  · exact .refl _

end Memory.Extends

/-! ## Walking -/

open Memory (Extends)

variable {settings : Settings} {child : Child}

/-- The step of a list's walk: a child that is given is given again, and the cursor
goes on from the same place. -/
theorem ListCursor.next_extends (h : before.Extends after) {cursor c : ListCursor}
    (given : (cursor.next ⟨types, before⟩ settings).value = (some child, c)) :
    (cursor.next ⟨types, after⟩ settings).value = (some child, c) := by
  have walking_extends : ∀ data index stop,
      (advance ⟨types, before⟩ data index stop).value = (some child, c) →
      (advance ⟨types, after⟩ data index stop).value = (some child, c) := by
    intro data index stop given
    rcases advance_cases ⟨types, before⟩ data index stop with ⟨element, room, found, hvalue⟩ | hend
    · rw [advance_of_element room (h.index data index element found), ← given, hvalue]
    · rw [hend] at given
      cases given
  cases cursor with
  | fresh subject =>
    by_cases hopens : ∃ data length, Opens ⟨types, before⟩ subject .length .data data length
    · obtain ⟨data, length, hopens⟩ := hopens
      rw [value_next_fresh_of_opens hopens] at given
      rw [value_next_fresh_of_opens (h.opens hopens)]
      exact walking_extends data 0 _ given
    · rw [value_next_fresh_of_not_opens fun data length h => hopens ⟨data, length, h⟩] at given
      cases given
  | walking data index stop => exact walking_extends data index stop given
  | finished => cases given

/-- The walk passes over the same slots and comes to the same entry. It is by
induction on the slots ahead. -/
theorem DictCursor.advance_extends (h : before.Extends after) {slots : Value} {shown : Nat}
    {c : DictCursor} : ∀ ahead slot,
    (advance ⟨types, before⟩ settings slots shown slot ahead).value = (some child, c) →
    (advance ⟨types, after⟩ settings slots shown slot ahead).value = (some child, c) := by
  intro ahead
  induction ahead with
  | zero =>
    intro slot given
    cases given
  | succ ahead ih =>
    intro slot given
    -- The slot gives the child, or is passed over, in both memories.
    cases found : (readSlot ⟨types, before⟩ settings slots slot).result with
    | error fault =>
      rw [advance_of_fault found] at given
      cases given
    | ok content =>
      have kept := h.readSlot settings slots slot content found
      cases content with
      | some entry =>
        rw [advance_of_entry found] at given
        rw [advance_of_entry kept]
        exact given
      | none =>
        rw [advance_of_vacant found] at given
        rw [advance_of_vacant kept]
        exact ih (slot + 1) given

/-- The step of a dictionary's walk. -/
theorem DictCursor.next_extends (h : before.Extends after) {cursor c : DictCursor}
    (given : (cursor.next ⟨types, before⟩ settings).value = (some child, c)) :
    (cursor.next ⟨types, after⟩ settings).value = (some child, c) := by
  cases cursor with
  | fresh subject =>
    by_cases hopens :
        ∃ slots capacity, Opens ⟨types, before⟩ subject .capacity .slots slots capacity
    · obtain ⟨slots, capacity, hopens⟩ := hopens
      rw [value_next_fresh_of_opens hopens] at given
      rw [value_next_fresh_of_opens (h.opens hopens)]
      exact advance_extends h _ 0 given
    · rw [value_next_fresh_of_not_opens
        fun slots capacity h => hopens ⟨slots, capacity, h⟩] at given
      cases given
  | walking slots slot ahead shown => exact advance_extends h ahead slot given
  | owing due slots slot ahead shown => exact given
  | finished => cases given

namespace Cursor

/-- The step of any walk: a child that was given is given again, and leaves the same
cursor. -/
theorem next_extends (h : before.Extends after) {cursor c : Cursor}
    (given : (cursor.next ⟨types, before⟩ settings).value = (some child, c)) :
    (cursor.next ⟨types, after⟩ settings).value = (some child, c) := by
  cases cursor with
  | list cursor =>
    rw [next_list] at given ⊢
    obtain ⟨hchild, hcursor⟩ := Prod.mk.inj given
    have kept := ListCursor.next_extends h (Prod.ext hchild rfl)
    rw [kept, ← hcursor]
  | dict cursor =>
    rw [next_dict] at given ⊢
    obtain ⟨hchild, hcursor⟩ := Prod.mk.inj given
    have kept := DictCursor.next_extends h (Prod.ext hchild rfl)
    rw [kept, ← hcursor]
  | nothing => cases given

/-- The run of a walk: the children come again, and there may be more of them. -/
theorem Yields.prefix_of_extends (h : before.Extends after) {cursor : Cursor}
    {early late : List Child} (hearly : Yields ⟨types, before⟩ settings cursor early)
    (hlate : Yields ⟨types, after⟩ settings cursor late) : early <+: late := by
  induction hearly generalizing late with
  | ended answer => exact List.nil_prefix
  | child answer more ih =>
    have again := next_extends h answer
    cases hlate with
    | ended answer' =>
      rw [again] at answer'
      cases answer'
    | child answer' more' =>
      rw [again] at answer'
      cases answer'
      exact List.cons_prefix_cons.mpr ⟨rfl, ih more'⟩

end Cursor

/-! ## All of it -/

/-- What was decoded in `before` is decoded in `after`, and comes out the same. -/
structure Program.DecodedIn (settings : Settings) (before after : Program) : Prop where
  field : ∀ v name w, before.field v name = .ok w → after.field v name = .ok w
  index : ∀ v i, (before.index v i).KeptBy (after.index v i)
  dereference : ∀ v, (before.dereference v).KeptBy (after.dereference v)
  readInt : ∀ v, (before.readInt v).KeptBy (after.readInt v)
  readPointer : ∀ v, (before.readPointer v).KeptBy (after.readPointer v)
  readBytes : ∀ v len, (before.readBytes v len).KeptBy (after.readBytes v len)
  scalarText : ∀ v, (before.scalarText v).KeptBy (after.scalarText v)
  parts : ∀ v limit, (before.parts v limit).KeptBy (after.parts v limit)
  /-- A summary that is no placeholder stays as it is. -/
  summary : ∀ (p : Printer) text, (p.decode before settings).result = .ok text →
    (p.summary before settings).value = text ∧ (p.summary after settings).value = text
  /-- The children come again, under the same labels, and there may be more behind
  them. -/
  children : ∀ p : Printer, ∃ early late, Cursor.Yields before settings p.cursor early ∧
    Cursor.Yields after settings p.cursor late ∧ early <+: late

/-- All operations, summaries and walks, put together. -/
theorem Memory.Extends.decodedIn (h : before.Extends after) (types : TypeTable)
    (settings : Settings) : Program.DecodedIn settings ⟨types, before⟩ ⟨types, after⟩ where
  field _ _ _ found := found
  index := h.index
  dereference := h.dereference
  readInt := h.readInt
  readPointer := h.readPointer
  readBytes := h.readTarget
  scalarText := h.scalarText
  parts := h.parts
  summary p text decoded := by
    have again := h.decode settings p text decoded
    unfold Printer.summary
    rw [Look.value_orNote, Look.value_orNote, decoded, again]
    exact ⟨rfl, rfl⟩
  children p := by
    obtain ⟨early, -, hearly⟩ := Cursor.exists_yields ⟨types, before⟩ settings p
    obtain ⟨late, -, hlate⟩ := Cursor.exists_yields ⟨types, after⟩ settings p
    exact ⟨early, late, hearly, hlate, hearly.prefix_of_extends h hlate⟩

/-- **More memory keeps what was decoded.** Whatever a snapshot went through, a
region that is added to it changes no result that was not a fault, no summary that
was made, and no child that was given. -/
theorem Snapshot.decodedIn_of_add {ops : List Op} {start : Nat} {bytes : List UInt8} {t : Snapshot}
    (h : (run ops).add start bytes = .ok t) (types : TypeTable) (settings : Settings) :
    Program.DecodedIn settings ⟨types, (run ops).memory⟩ ⟨types, t.memory⟩ :=
  Memory.Extends.decodedIn (extends_of_add (recalls_run ops).valid h) types settings

/-! ### A table whose end is captured later -/

open DictCursor (holeTypes holeMemory)

/-- The regions of the table with a hole, and the slot that was missing. -/
def holeOps : List Snapshot.Op := holeMemory.regions.map fun r => .add r.start r.bytes

def missingSlot : List UInt8 := [1, 9, 9].flatMap (LittleEndian.toBytes 8)

/-- With its last slot the dictionary has one entry more, behind the one that it
had. -/
theorem Snapshot.decodedIn_hole :
    (run holeOps).add 0x2030 missingSlot = .ok ⟨⟨0x2030, missingSlot⟩ :: holeMemory.regions⟩ ∧
      ∃ late, Cursor.Yields ⟨holeTypes, memory ⟨⟨0x2030, missingSlot⟩ :: holeMemory.regions⟩⟩ {}
          (Printer.cursor ⟨.stored 0x1000 4, .dict "i64" "i64"⟩) late ∧
        [⟨"[0].key", .stored 0x2020 1⟩, ⟨"[0].value", .stored 0x2028 1⟩] <+: late := by
  have hadd : (run holeOps).add 0x2030 missingSlot =
      .ok ⟨⟨0x2030, missingSlot⟩ :: holeMemory.regions⟩ := rfl
  obtain ⟨early, late, hearly, hlate, hprefix⟩ :=
    (decodedIn_of_add hadd holeTypes {}).children ⟨.stored 0x1000 4, .dict "i64" "i64"⟩
  have hfirst : early = [⟨"[0].key", .stored 0x2020 1⟩, ⟨"[0].value", .stored 0x2028 1⟩] :=
    hearly.unique (DictCursor.yields_fresh_of_opens DictCursor.opens_hole)
  rw [hfirst] at hprefix
  exact ⟨hadd, late, hlate, hprefix⟩

end HeapLens
