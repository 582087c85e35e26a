import HeapLens.Container.Name
import HeapLens.Value.Basic

/-!
# Which container a value is

A value is recognised by the name of its type, looked through one pointer. Nothing
is read for it.
-/

namespace HeapLens.Container

/-- The name by which a value is recognised: that of its type, or of what it points
to. -/
def subjectName (program : Program) (v : Value) : Except Fault String :=
  if program.isPointer v then program.pointeeName v else program.typeName v

/-- The container that a value is or points to. A value without a name is none. -/
def ofValue? (program : Program) (settings : Settings) (v : Value) : Option Container :=
  (subjectName program v).toOption.bind (ofName? settings)

end HeapLens.Container
