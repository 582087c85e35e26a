import HeapLens.Settings
import HeapLens.Text.Alphanumeric

/-!
# Which container a name denotes

The runtime makes one struct for each instance of a container and names it by a
small grammar, read over the whole name after one qualifier has been taken off:

* the name of the string struct: a text;
* the list stem, `_`, a word: a list with elements of that tag;
* the dictionary stem, `_`, a word, `_`, a word: a dictionary. Words may hold `_`
  themselves, so the first word is taken as short as possible.

A *word* is a nonempty run of letters, numbers and `_`.
-/

namespace HeapLens

/-- A container of the runtime, with the tags of its type parameters. -/
inductive Container where
  | text
  | list (elem : String)
  | dict (key value : String)
  deriving DecidableEq, Repr

namespace Container

def isWordChar (c : Char) : Bool := Text.isAlphanumeric c || c == '_'

/-- A nonempty run of letters, numbers and `_`. -/
def isWord (cs : List Char) : Bool := !cs.isEmpty && cs.all isWordChar

def afterStem? (stem : String) (name : List Char) : Option (List Char) :=
  (stem.toList ++ ['_']).isPrefixOf? name

/-- The parts before and after a `_`, neither of them empty and the first as short
as possible. -/
def splitPair? : List Char → Option (List Char × List Char)
  | [] => none
  | c :: rest =>
    match rest.dropWhile (· != '_') with
    | _ :: v :: value => some (c :: rest.takeWhile (· != '_'), v :: value)
    | _ => none

/-- The tag of a list's struct, if `name` is one. -/
def listTag? (settings : Settings) (name : List Char) : Option (List Char) :=
  (afterStem? settings.listStem name).filter isWord

/-- The tags of a dictionary's struct, if `name` is one. -/
def dictTags? (settings : Settings) (name : List Char) : Option (List Char × List Char) :=
  ((afterStem? settings.dictStem name).filter isWord).bind splitPair?

/-- The name without the qualifier, if it has one in front. -/
def unqualified (settings : Settings) (name : List Char) : List Char :=
  (settings.qualifier.toList.isPrefixOf? name).getD name

/-- The container that a name without qualifier denotes. -/
def ofUnqualified? (settings : Settings) (name : List Char) : Option Container :=
  if name = settings.stringName.toList then some .text
  else
    match listTag? settings name with
    | some tag => some (.list (String.ofList tag))
    | none =>
      (dictTags? settings name).map fun tags =>
        .dict (String.ofList tags.1) (String.ofList tags.2)

/-- The container that a name denotes; it may still carry the qualifier. -/
def ofName? (settings : Settings) (name : String) : Option Container :=
  ofUnqualified? settings (unqualified settings name.toList)

/-! ## What the parts of the grammar accept -/

/-- A word is not empty, and has no other characters than those of words. -/
theorem isWord_iff {cs : List Char} :
    isWord cs = true ↔ cs ≠ [] ∧ ∀ c ∈ cs, isWordChar c = true := by
  simp [isWord]

/-- Both parts and the `_` between them make up the whole. -/
theorem eq_append_of_splitPair? {cs key value : List Char} (h : splitPair? cs = some (key, value)) :
    cs = key ++ '_' :: value := by
  cases cs with
  | nil => simp [splitPair?] at h
  | cons c rest =>
    have whole := List.takeWhile_append_dropWhile (p := (· != '_')) (l := rest)
    have stop := List.head?_dropWhile_not (· != '_') rest
    cases found : rest.dropWhile (· != '_') with
    | nil => simp [splitPair?, found] at h
    | cons u after =>
      cases after with
      | nil => simp [splitPair?, found] at h
      | cons v more =>
        simp only [splitPair?, found, Option.some.injEq, Prod.mk.injEq] at h
        rw [found] at whole stop
        have underscore : u = '_' := by simpa using stop
        obtain ⟨rfl, rfl⟩ := h
        subst underscore
        rw [List.cons_append, whole]

end Container

end HeapLens
