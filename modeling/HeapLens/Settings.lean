/-!
# Settings of an inspection

How the runtime names the structs of its containers, and how much of a value is read
and shown.
-/

namespace HeapLens

/-- Naming conventions of the runtime and the limits of what is shown. -/
structure Settings where
  /-- The struct of a string. -/
  stringName : String := "__lang_rt_Str"
  /-- Structs of lists are named so, then `_`, then the tag of the elements. -/
  listStem : String := "__lang_rt_List"
  /-- Structs of dictionaries are named so, then `_`, the tag of the keys, `_`, the
  tag of the values. -/
  dictStem : String := "__lang_rt_Dict"
  /-- What may stand before the name of a struct and does not belong to it. -/
  qualifier : String := "struct "
  /-- Shown for a null container. -/
  nullText : String := "None"
  /-- A list shows at most so many children. -/
  maxListChildren : Nat := 200
  /-- The status of a dictionary's slot that holds an entry. -/
  occupiedStatus : Int := 1
  /-- Of a string at most so many bytes are read. -/
  maxTextBytes : Nat := 0x10000000
  /-- On one line at most so many children of a value are shown. -/
  maxShownChildren : Nat := 20
  /-- Values nested deeper than this are not opened. -/
  maxShownDepth : Nat := 4
  deriving DecidableEq, Repr

end HeapLens
