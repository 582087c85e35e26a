/-!
# Tags of type parameters

In the name of a container's struct a type parameter is written as a tag: a fixed
word for each of the language's own types, and the name itself for a type of the
user.
-/

namespace HeapLens.Container

/-- The tags of the language's own types, each with the name that it stands for. -/
def ownTags : List (String × String) :=
  [("I8", "i8"), ("I16", "i16"), ("I32", "i32"), ("I64", "i64"),
   ("U8", "u8"), ("U16", "u16"), ("U32", "u32"), ("U64", "u64"),
   ("F32", "f32"), ("F64", "f64"), ("BOOL", "bool"), ("STR", "str")]

/-- The name of the type that a tag stands for. -/
def tagName (tag : String) : String := (ownTags.lookup tag).getD tag

/-- A tag of the table stands for the name beside it: no tag is in the table
twice. -/
theorem tagName_of_mem {tag name : String} (h : (tag, name) ∈ ownTags) : tagName tag = name := by
  have all : ∀ entry ∈ ownTags, tagName entry.1 = entry.2 := by decide
  exact all (tag, name) h

/-- A tag that is not one of the language's own is a name already. -/
theorem tagName_of_not_mem {tag : String} (h : tag ∉ ownTags.map Prod.fst) :
    tagName tag = tag := by
  have missing : ownTags.lookup tag = none :=
    List.lookup_eq_none_iff.2 fun entry member => by
      have := fun same : tag = entry.1 => h (same ▸ List.mem_map_of_mem member)
      simpa using this
  simp [tagName, missing]

end HeapLens.Container
