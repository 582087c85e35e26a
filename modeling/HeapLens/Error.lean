import HeapLens.Fault
import HeapLens.Text.Utf8
import HeapLens.Error.SystemText

/-!
# Errors as they are reported

An `Error` is what a caller gets to see: a message together with its cause, which is
one of the kinds of `ErrorCode`, an error number of the system, or a failed stream.
It has two texts, `display` for the user and `debug` for the log.
-/

namespace HeapLens

/-- How reading or writing a stream fails. -/
inductive StreamFailure where
  | notFound
  | permissionDenied
  | unexpectedEnd
  | invalidData
  deriving DecidableEq, Repr

/-- What is said of a stream's failure when nothing more is known. -/
def StreamFailure.description : StreamFailure → String
  | .notFound => "entity not found"
  | .permissionDenied => "permission denied"
  | .unexpectedEnd => "unexpected end of file"
  | .invalidData => "invalid data"

inductive Outside where
  /-- A call of the system failed with this number. -/
  | system (number : Int)
  /-- A stream failed, with a text of its own if there is one. -/
  | stream (failure : StreamFailure) (detail : Option String)
  deriving DecidableEq, Repr

namespace Outside

def text : Outside → String
  | system number => s!"{Error.systemText number} (os error {number})"
  | stream failure detail => detail.getD failure.description

/-- What a copy keeps: the number, or the way in which a stream failed but not its
own text. -/
def copy : Outside → Outside
  | system number => system number
  | stream failure _ => stream failure none

end Outside

inductive Cause where
  | code (code : ErrorCode)
  | outside (failure : Outside)
  deriving DecidableEq, Repr

structure Error where
  cause : Cause
  message : String := ""
  deriving DecidableEq, Repr

namespace Error

def code? (e : Error) : Option ErrorCode :=
  match e.cause with
  | .code code => some code
  | .outside _ => none

/-- The text for the user: the message, then what an outside failure says. -/
def display (e : Error) : String :=
  match e.cause with
  | .code _ => e.message
  | .outside failure => if e.message = "" then failure.text else s!"{e.message}: {failure.text}"

/-- The text for the log: it begins with the code's number, or with the message even
if empty. -/
def debug (e : Error) : String :=
  match e.cause with
  | .code code => s!"{code.number}: {e.message}"
  | .outside failure => s!"{e.message}: {failure.text}"

def copy (e : Error) : Error :=
  match e.cause with
  | .code _ => e
  | .outside failure => { e with cause := .outside failure.copy }

def ofFault (fault : Fault) : Error := ⟨.code fault.code, fault.message⟩

/-- Bytes that are not text. -/
def ofFlaw (flaw : Text.Utf8.Flaw) : Error := ⟨.code .format, flaw.message⟩

/-- A value that refused to be put into words. -/
def formatting : Error := ⟨.code .format, "an error occurred when formatting an argument"⟩

/-- An error that was made of a fault shows the fault's message. -/
theorem display_ofFault (fault : Fault) : (ofFault fault).display = fault.message := rfl

/-- A copy is not changed by being copied. -/
theorem copy_copy (e : Error) : e.copy.copy = e.copy := by
  obtain ⟨cause | failure, message⟩ := e
  · rfl
  · cases failure <;> rfl

end Error

end HeapLens
