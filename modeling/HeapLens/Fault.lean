import HeapLens.Text.Hex

/-!
# Faults: why looking at a value failed

A `Fault` is one cause, with the data that its wording needs: addresses, sizes, and
types in the spelling that is shown to the user. `Fault.code` sorts the causes into
the kinds that callers tell apart; `Fault.message` is the only place where they are
put into words.
-/

namespace HeapLens

open Text (hex hexAddress)

inductive ErrorCode where
  | internal
  | usage
  | format
  | processState
  | notImplemented
  | sanity
  | tooLong
  | noField
  | typeMismatch
  | notContainer
  deriving DecidableEq, Repr

/-- The number under which a kind of failure appears in logs. -/
def ErrorCode.number : ErrorCode → Nat
  | .internal => 3
  | .usage => 4
  | .format => 6
  | .processState => 9
  | .notImplemented => 10
  | .sanity => 16
  | .tooLong => 20
  | .noField => 22
  | .typeMismatch => 23
  | .notContainer => 28

/-- Each code has a number of its own. -/
theorem ErrorCode.number_injective {a b : ErrorCode} (h : a.number = b.number) : a = b := by
  cases a <;> cases b <;> simp_all [number]

/-- Which part of a value was asked for when the value turned out not to live in
memory. -/
inductive Part where
  | field
  | element
  deriving DecidableEq, Repr

def Part.name : Part → String
  | .field => "field"
  | .element => "element"

/-- A single cause of failure. Types are given in the spelling that a message
shows. -/
inductive Fault where
  | badAddress (addr : Nat)
  /-- The address is mapped, but not all of the bytes asked for. -/
  | truncatedRead (addr len : Nat)
  | regionOverflow (start len : Nat)
  | regionOverlap (start stop otherStart otherStop : Nat)
  /-- Integers have one to eight bytes. -/
  | integerSize (size : Nat)
  /-- A field was asked of something that is neither struct nor union. -/
  | fieldOfNonRecord (field kind type : String)
  | incompleteRecord (type : String)
  | noField (field type : String)
  /-- Only a declared struct can be completed. -/
  | notDeclaration (type : String)
  | unknownType
  /-- The pointee's name was asked of something else than a pointer. -/
  | notPointer (kind : String)
  /-- Something else than a pointer was to be followed. -/
  | notDereferenceable (kind : String)
  | nullDereference
  /-- Parts can be taken of values in memory only. -/
  | notInMemory (part : Part) (type : String)
  /-- The field would lie beyond the last address. -/
  | fieldOverflow (addr offset : Nat)
  | outOfBounds (index length : Nat)
  /-- Only arrays and pointers have elements. -/
  | notIndexable (kind : String)
  /-- Elements without a size cannot be told apart. -/
  | unsizedElement (type : String)
  /-- The element would lie beyond the last address. -/
  | elementOverflow (base index stride : Nat)
  | notInteger (type : String)
  | notAddress (type : String)
  /-- Floating point values have four or eight bytes. -/
  | floatSize (size : Nat)
  /-- The value has no single text. -/
  | notScalar (type : String)
  | negativeLength (length : Int)
  /-- The string is longer than what is read of it. -/
  | textTooLong (length : Int) (shown : Nat)
  deriving DecidableEq, Repr

namespace Fault

def code : Fault → ErrorCode
  | badAddress _ | truncatedRead _ _ | nullDereference => .processState
  | regionOverflow _ _ | regionOverlap _ _ _ _ | notDeclaration _ => .usage
  | integerSize _ | fieldOverflow _ _ | outOfBounds _ _ | unsizedElement _ | elementOverflow _ _ _
  | negativeLength _ => .sanity
  | fieldOfNonRecord _ _ _ | incompleteRecord _ | unknownType | notPointer _ | notDereferenceable _
  | notInMemory _ _ | notInteger _ | notAddress _ | notScalar _ => .typeMismatch
  | noField _ _ => .noField
  | notIndexable _ => .notContainer
  | floatSize _ => .notImplemented
  | textTooLong _ _ => .tooLong

def message : Fault → String
  | badAddress addr => s!"bad address {hexAddress addr}"
  | truncatedRead addr len => s!"unexpected EOF in mem @{hex addr}:{hexAddress len}"
  | regionOverflow start len => s!"region {hexAddress start} + {hexAddress len} overflows"
  | regionOverlap start stop otherStart otherStop =>
    s!"region [{hexAddress start}, {hexAddress stop}) overlaps " ++
      s!"[{hexAddress otherStart}, {hexAddress otherStop})"
  | integerSize size => s!"unexpected integer size: {size}"
  | fieldOfNonRecord field kind type => s!"can't get field '{field}' of {kind} {type}"
  | incompleteRecord type => s!"{type} is incomplete"
  | noField field type => s!"no field '{field}' in {type}"
  | notDeclaration type => s!"{type} is not a struct declaration"
  | unknownType => "unknown type"
  | notPointer kind => s!"not a pointer: {kind}"
  | notDereferenceable kind => s!"can't dereference {kind}"
  | nullDereference => "null pointer dereference"
  | notInMemory part type =>
    s!"can't take {part.name} of a value that is not in memory ({type})"
  | fieldOverflow addr offset => s!"field address overflow: {hexAddress addr} + {offset}"
  | outOfBounds index length => s!"index {index} out of bounds (array of {length})"
  | notIndexable kind => s!"can't index {kind}"
  | unsizedElement type => s!"element type {type} has unknown size"
  | elementOverflow base index stride =>
    s!"element address overflow: {hexAddress base} + {index}*{stride}"
  | notInteger type => s!"expected integer, got {type}"
  | notAddress type => s!"expected pointer, got {type}"
  | floatSize size => s!"{size}-byte float"
  | notScalar type => s!"not a scalar: {type}"
  | negativeLength length => s!"negative string length: {length}"
  | textTooLong length shown => s!"{length} bytes, showing the first {shown}"

end Fault

end HeapLens
