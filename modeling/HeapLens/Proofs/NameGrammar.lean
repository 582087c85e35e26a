import HeapLens.Container.Name
import Mathlib.Data.List.Basic

/-!
# Names of containers: recognising is reading the grammar

A name is read whole. `structName` writes the name of a container's struct from its
tags, `Spells` says that a bare name is such a name, and `Denotes` which of the ways
to read it counts: a string before a list, a list before a dictionary, and of the
keys of a dictionary the shortest.

> `ofUnqualified?_eq_some_iff`: a bare name is recognised as what it denotes, and as
> nothing else.

The search for the end of a key looks at single characters. It finds the first `_`
behind the first character (`splitPair?_append`), and any other place where the name
can be parted lies behind that one (`exists_first_underscore`), so what is found is
the shortest key.
-/

namespace HeapLens.Container

/-! ## The grammar -/

/-- A word: letters, numbers and `_`, and at least one of them. -/
def IsWord (s : String) : Prop := s ≠ "" ∧ ∀ c ∈ s.toList, Text.isAlphanumeric c = true ∨ c = '_'

/-- The name begins with the qualifier. Nothing begins with an empty one. -/
def Qualified (settings : Settings) (name : String) : Prop :=
  settings.qualifier ≠ "" ∧ ∃ rest, name = settings.qualifier ++ rest

/-- `bare` is what is left of `name` when one qualifier is taken off. -/
inductive Bare (settings : Settings) : (name bare : String) → Prop where
  | qualified {bare : String} (some : settings.qualifier ≠ "") :
      Bare settings (settings.qualifier ++ bare) bare
  | plain {name : String} (none : ¬ Qualified settings name) : Bare settings name name

/-- The name of the struct of a container, given by its tags. -/
def structName (settings : Settings) : Container → String
  | text => settings.stringName
  | list elem => settings.listStem ++ "_" ++ elem
  | dict key value => settings.dictStem ++ "_" ++ key ++ "_" ++ value

/-- All tags are words. -/
def Tagged : Container → Prop
  | text => True
  | list elem => IsWord elem
  | dict key value => IsWord key ∧ IsWord value

/-- `bare` can be read as the name of this container. -/
def Spells (settings : Settings) (bare : String) (c : Container) : Prop :=
  bare = structName settings c ∧ c.Tagged

/-- Of the ways to read a bare name, the one that counts. -/
inductive Denotes (settings : Settings) (bare : String) : Container → Prop where
  | text (spelled : Spells settings bare text) : Denotes settings bare text
  | list {elem : String} (notText : ¬ Spells settings bare text)
      (spelled : Spells settings bare (list elem)) : Denotes settings bare (list elem)
  | dict {key value : String} (notText : ¬ Spells settings bare text)
      (notList : ∀ elem, ¬ Spells settings bare (list elem))
      (spelled : Spells settings bare (dict key value))
      (shortest : ∀ k v, Spells settings bare (dict k v) → key.length ≤ k.length) :
      Denotes settings bare (dict key value)

variable {settings : Settings} {name bare key value elem : String} {c : Container}

/-! ## Words -/

/-- What a word is, is tested character by character. -/
theorem isWord_iff_isWord_toList {s : String} : IsWord s ↔ isWord s.toList = true := by
  simp [IsWord, isWord_iff, isWordChar]

/-- Two words with a `_` between them are a word, and parts of a word are words. -/
theorem isWord_append_underscore {first second : List Char} :
    isWord (first ++ '_' :: second) = true ∧ first ≠ [] ∧ second ≠ [] ↔
      isWord first = true ∧ isWord second = true := by
  have underscore : isWordChar '_' = true := by decide
  simp only [isWord_iff, List.mem_append, List.mem_cons]
  constructor
  · rintro ⟨⟨-, hall⟩, hfirst, hsecond⟩
    exact ⟨⟨hfirst, fun c hc => hall c (Or.inl hc)⟩, hsecond,
      fun c hc => hall c (Or.inr (Or.inr hc))⟩
  · rintro ⟨⟨hfirst, hbefore⟩, hsecond, hbehind⟩
    refine ⟨⟨List.append_ne_nil_of_left_ne_nil hfirst _, ?_⟩, hfirst, hsecond⟩
    rintro c (hc | rfl | hc)
    · exact hbefore c hc
    · exact underscore
    · exact hbehind c hc

/-! ## Where a pair is parted -/

/-- A key without `_` behind its first character is found, whatever the value is. -/
theorem splitPair?_append (first : Char) {key value : List Char} (hkey : '_' ∉ key)
    (hvalue : value ≠ []) :
    splitPair? (first :: (key ++ '_' :: value)) = some (first :: key, value) := by
  have before : ∀ c ∈ key, (c != '_') = true := by
    intro c hc
    simpa using ne_of_mem_of_not_mem hc hkey
  obtain ⟨v, more, rfl⟩ := List.exists_cons_of_ne_nil hvalue
  rw [splitPair?, List.dropWhile_append_of_pos before, List.takeWhile_append_of_pos before]
  simp

/-- The first of the places where a text is parted by `_`. -/
theorem exists_first_underscore (key : List Char) {value : List Char} (hvalue : value ≠ []) :
    ∃ k v, key ++ '_' :: value = k ++ '_' :: v ∧ '_' ∉ k ∧ v ≠ [] ∧ k.length ≤ key.length := by
  induction key with
  | nil => exact ⟨[], value, rfl, List.not_mem_nil, hvalue, Nat.le_refl 0⟩
  | cons c key ih =>
    by_cases here : c = '_'
    · refine ⟨[], key ++ '_' :: value, by rw [here]; rfl, List.not_mem_nil, ?_, Nat.zero_le _⟩
      exact List.append_ne_nil_of_right_ne_nil key (List.cons_ne_nil _ _)
    · obtain ⟨k, v, same, hk, hv, hle⟩ := ih
      refine ⟨c :: k, v, by rw [List.cons_append, same]; rfl, ?_, hv, Nat.succ_le_succ hle⟩
      intro hmem
      rcases List.mem_cons.mp hmem with heq | hmem
      · exact here heq.symm
      · exact hk hmem

/-- A text that can be parted is parted, behind a key that is no longer. -/
theorem exists_splitPair? {key value : List Char} (hkey : key ≠ []) (hvalue : value ≠ []) :
    ∃ k v, splitPair? (key ++ '_' :: value) = some (k, v) ∧ k.length ≤ key.length := by
  obtain ⟨first, rest, rfl⟩ := List.exists_cons_of_ne_nil hkey
  obtain ⟨k, v, same, hk, hv, hle⟩ := exists_first_underscore rest hvalue
  refine ⟨first :: k, v, ?_, Nat.succ_le_succ hle⟩
  rw [List.cons_append, same, splitPair?_append _ hk hv]

theorem ne_nil_of_splitPair? {cs key value : List Char} (h : splitPair? cs = some (key, value)) :
    key ≠ [] ∧ value ≠ [] := by
  cases cs with
  | nil => cases h
  | cons c rest =>
    rw [splitPair?] at h
    split at h
    · cases h
      exact ⟨List.cons_ne_nil _ _, List.cons_ne_nil _ _⟩
    · cases h

/-! ## The three ways to read a bare name -/

/-- A stem is followed by a `_`, and by the rest. -/
theorem afterStem?_eq_some_iff {stem : String} {cs rest : List Char} :
    afterStem? stem cs = some rest ↔ cs = stem.toList ++ '_' :: rest := by
  unfold afterStem?
  rw [List.isPrefixOf?_eq_some_iff_append_eq, List.append_assoc, eq_comm]
  rfl

theorem spells_text_iff : Spells settings bare text ↔ bare = settings.stringName :=
  and_iff_left trivial

/-- A name is that of a list if it has a tag for the elements. -/
theorem spells_list_iff :
    Spells settings bare (list elem) ↔ listTag? settings bare.toList = some elem.toList := by
  unfold listTag?
  rw [Option.filter_eq_some_iff, afterStem?_eq_some_iff, ← isWord_iff_isWord_toList]
  unfold Spells structName
  rw [← String.toList_inj, String.toList_append, String.toList_append, List.append_assoc]
  rfl

/-- A name is that of a dictionary if its tags are two words with a `_` between
them. -/
theorem spells_dict_iff :
    Spells settings bare (dict key value) ↔
      afterStem? settings.dictStem bare.toList = some (key.toList ++ '_' :: value.toList) ∧
        isWord key.toList = true ∧ isWord value.toList = true := by
  rw [afterStem?_eq_some_iff, ← isWord_iff_isWord_toList, ← isWord_iff_isWord_toList]
  unfold Spells structName
  rw [← String.toList_inj]
  simp only [String.toList_append, List.append_assoc]
  rfl

/-- The tags of a dictionary are found where the key is shortest. -/
theorem dictTags?_eq_some_iff :
    dictTags? settings bare.toList = some (key.toList, value.toList) ↔
      Spells settings bare (dict key value) ∧
        ∀ k v, Spells settings bare (dict k v) → key.length ≤ k.length := by
  unfold dictTags?
  rw [Option.bind_eq_some_iff]
  simp only [Option.filter_eq_some_iff]
  constructor
  · rintro ⟨rest, ⟨hrest, hword⟩, hsplit⟩
    have hparts := eq_append_of_splitPair? hsplit
    subst hparts
    refine ⟨spells_dict_iff.mpr ⟨hrest, isWord_append_underscore.mp ⟨hword, ?_⟩⟩, ?_⟩
    · exact ne_nil_of_splitPair? hsplit
    · intro k v hother
      obtain ⟨hsame, hk, hv⟩ := spells_dict_iff.mp hother
      obtain ⟨k', v', hfound, hle⟩ :=
        exists_splitPair? (isWord_iff.mp hk).1 (isWord_iff.mp hv).1
      rw [← Option.some.inj (hrest.symm.trans hsame), hsplit] at hfound
      cases hfound
      exact hle
  · rintro ⟨hspells, hshortest⟩
    obtain ⟨hrest, hkey, hvalue⟩ := spells_dict_iff.mp hspells
    obtain ⟨hword, hkey', hvalue'⟩ := isWord_append_underscore.mpr ⟨hkey, hvalue⟩
    refine ⟨_, ⟨hrest, hword⟩, ?_⟩
    -- What is found is another way to read the name, and its key is not longer,
    -- hence the same.
    obtain ⟨k, v, hfound, hle⟩ := exists_splitPair? hkey' hvalue'
    have hparts := eq_append_of_splitPair? hfound
    have hwords := isWord_append_underscore.mp ⟨hparts ▸ hword, ne_nil_of_splitPair? hfound⟩
    have hother : Spells settings bare (dict (String.ofList k) (String.ofList v)) := by
      rw [spells_dict_iff, String.toList_ofList, String.toList_ofList, ← hparts]
      exact ⟨hrest, hwords⟩
    have hge := hshortest _ _ hother
    rw [← String.length_toList, ← String.length_toList, String.toList_ofList] at hge
    obtain ⟨rfl, htail⟩ := List.append_inj hparts (Nat.le_antisymm hge hle)
    cases htail
    exact hfound

theorem exists_dictTags? (h : Spells settings bare (dict key value)) :
    ∃ k v, dictTags? settings bare.toList = some (k, v) := by
  obtain ⟨hrest, hkey, hvalue⟩ := spells_dict_iff.mp h
  obtain ⟨hword, hkey', hvalue'⟩ := isWord_append_underscore.mpr ⟨hkey, hvalue⟩
  obtain ⟨k, v, hfound, -⟩ := exists_splitPair? hkey' hvalue'
  refine ⟨k, v, ?_⟩
  unfold dictTags?
  rw [hrest, Option.filter_some, if_pos hword]
  exact hfound

/-! ## Recognising -/

/-- The string's name is tested first. -/
theorem ofUnqualified?_of_text (h : Spells settings bare text) :
    ofUnqualified? settings bare.toList = some text := by
  unfold ofUnqualified?
  rw [if_pos (congrArg String.toList (spells_text_iff.mp h))]

theorem ofUnqualified?_of_list (notText : ¬ Spells settings bare text)
    (h : Spells settings bare (list elem)) :
    ofUnqualified? settings bare.toList = some (list elem) := by
  unfold ofUnqualified?
  rw [if_neg fun same => notText (spells_text_iff.mpr (String.toList_inj.mp same)),
    spells_list_iff.mp h]
  show some (list (String.ofList elem.toList)) = _
  rw [String.ofList_toList]

theorem ofUnqualified?_of_not_list (notText : ¬ Spells settings bare text)
    (notList : ∀ elem, ¬ Spells settings bare (list elem)) :
    ofUnqualified? settings bare.toList =
      (dictTags? settings bare.toList).map fun tags =>
        dict (String.ofList tags.1) (String.ofList tags.2) := by
  have none : listTag? settings bare.toList = none := by
    refine Option.eq_none_iff_forall_ne_some.mpr ?_
    intro tag found
    refine notList (String.ofList tag) (spells_list_iff.mpr ?_)
    rw [String.toList_ofList]
    exact found
  unfold ofUnqualified?
  rw [if_neg fun same => notText (spells_text_iff.mpr (String.toList_inj.mp same)), none]

/-- A bare name is recognised as what it denotes. -/
theorem ofUnqualified?_eq_some_iff :
    ofUnqualified? settings bare.toList = some c ↔ Denotes settings bare c := by
  constructor
  · intro h
    by_cases isText : Spells settings bare text
    · rw [ofUnqualified?_of_text isText] at h
      cases h
      exact .text isText
    · by_cases isList : ∃ elem, Spells settings bare (list elem)
      · obtain ⟨elem, spelled⟩ := isList
        rw [ofUnqualified?_of_list isText spelled] at h
        cases h
        exact .list isText spelled
      · have notList := fun elem spelled => isList ⟨elem, spelled⟩
        rw [ofUnqualified?_of_not_list isText notList] at h
        obtain ⟨tags, found, rfl⟩ := Option.map_eq_some_iff.mp h
        have found' : dictTags? settings bare.toList =
            some ((String.ofList tags.1).toList, (String.ofList tags.2).toList) := by
          rw [String.toList_ofList, String.toList_ofList, found]
        obtain ⟨spelled, shortest⟩ := dictTags?_eq_some_iff.mp found'
        exact .dict isText notList spelled shortest
  · intro h
    cases h with
    | text spelled => exact ofUnqualified?_of_text spelled
    | list notText spelled => exact ofUnqualified?_of_list notText spelled
    | dict notText notList spelled shortest =>
      rw [ofUnqualified?_of_not_list notText notList,
        dictTags?_eq_some_iff.mpr ⟨spelled, shortest⟩]
      show some (dict (String.ofList _) (String.ofList _)) = _
      rw [String.ofList_toList, String.ofList_toList]

/-- What a name denotes is one of the ways to read it. -/
theorem Denotes.spells (h : Denotes settings bare c) : Spells settings bare c := by
  cases h with
  | text spelled => exact spelled
  | list _ spelled => exact spelled
  | dict _ _ spelled _ => exact spelled

/-- A name that can be read is recognised, if not always as what it was read as. -/
theorem Spells.exists_ofUnqualified? (h : Spells settings bare c) :
    ∃ d, ofUnqualified? settings bare.toList = some d := by
  by_cases isText : Spells settings bare text
  · exact ⟨_, ofUnqualified?_of_text isText⟩
  · by_cases isList : ∃ elem, Spells settings bare (list elem)
    · obtain ⟨elem, spelled⟩ := isList
      exact ⟨_, ofUnqualified?_of_list isText spelled⟩
    · have notList := fun elem spelled => isList ⟨elem, spelled⟩
      cases c with
      | text => exact absurd h isText
      | list elem => exact absurd h (notList elem)
      | dict key value =>
        obtain ⟨k, v, found⟩ := exists_dictTags? h
        rw [ofUnqualified?_of_not_list isText notList, found]
        exact ⟨_, rfl⟩

/-! ## Names with a qualifier -/

/-- What is left of a name is unique, and it is what recognising goes on with. -/
theorem bare_iff : Bare settings name bare ↔ bare.toList = unqualified settings name.toList := by
  unfold unqualified
  cases found : settings.qualifier.toList.isPrefixOf? name.toList with
  | some rest =>
    rw [List.isPrefixOf?_eq_some_iff_append_eq] at found
    have front : name = settings.qualifier ++ String.ofList rest := by
      rw [← String.toList_inj, String.toList_append, String.toList_ofList, found]
    rw [Option.getD_some]
    constructor
    · intro h
      cases h with
      | qualified some => simpa [String.toList_append] using found.symm
      | plain none =>
        have empty : settings.qualifier = "" := by
          by_contra some
          exact none ⟨some, _, front⟩
        rw [empty] at found
        exact found.symm
    · intro h
      rw [← h, String.ofList_toList] at front
      by_cases empty : settings.qualifier = ""
      · rw [empty, String.empty_append] at front
        subst front
        exact .plain fun h => h.1 empty
      · rw [front]
        exact .qualified empty
  | none =>
    have missing : ¬ Qualified settings name := by
      rintro ⟨-, rest, rfl⟩
      have there : settings.qualifier.toList.isPrefixOf? (settings.qualifier ++ rest).toList =
          some rest.toList := by
        rw [List.isPrefixOf?_eq_some_iff_append_eq, String.toList_append]
      rw [there] at found
      cases found
    rw [Option.getD_none, String.toList_inj]
    constructor
    · intro h
      cases h with
      | qualified some => exact absurd ⟨some, bare, rfl⟩ missing
      | plain => rfl
    · rintro rfl
      exact .plain missing

/-- There is always a way to take off the qualifier: if it is not there, the name is
bare already. -/
theorem bare_unqualified (settings : Settings) (name : String) :
    Bare settings name (String.ofList (unqualified settings name.toList)) := by
  rw [bare_iff, String.toList_ofList]

/-- With the qualifier a name is recognised as it is without. -/
theorem ofName?_eq_of_bare (h : Bare settings name bare) :
    ofName? settings name = ofUnqualified? settings bare.toList := by
  unfold ofName?
  rw [bare_iff.mp h]

/-- A name is recognised as what it denotes when it is bare, and as nothing else. -/
theorem ofName?_eq_some_iff :
    ofName? settings name = some c ↔ ∃ bare, Bare settings name bare ∧ Denotes settings bare c := by
  have hbare := bare_unqualified settings name
  constructor
  · intro h
    rw [ofName?_eq_of_bare hbare, ofUnqualified?_eq_some_iff] at h
    exact ⟨_, hbare, h⟩
  · rintro ⟨bare, hbare, h⟩
    rw [ofName?_eq_of_bare hbare, ofUnqualified?_eq_some_iff]
    exact h

/-- A key without `_` behind its first character is the shortest. -/
theorem length_le_of_spells_dict (hkey : '_' ∉ key.toList.tail)
    (h : Spells settings bare (dict key value)) :
    ∀ k v, Spells settings bare (dict k v) → key.length ≤ k.length := by
  obtain ⟨hrest, hword, hvalue⟩ := spells_dict_iff.mp h
  obtain ⟨first, rest, hfirst⟩ := List.exists_cons_of_ne_nil (isWord_iff.mp hword).1
  have hsplit := splitPair?_append first (hfirst ▸ hkey) (isWord_iff.mp hvalue).1
  rw [List.tail_cons, ← List.cons_append, ← hfirst] at hsplit
  have found : dictTags? settings bare.toList = some (key.toList, value.toList) := by
    unfold dictTags?
    rw [hrest, Option.filter_some, if_pos (isWord_append_underscore.mpr ⟨hword, hvalue⟩).1]
    exact hsplit
  exact (dictTags?_eq_some_iff.mp found).2

/-- **Names are recognised exactly by the grammar**, with any settings:

1. One qualifier is taken off in one way.
2. What is left is recognised as what it denotes.
3. It is not recognised exactly if it cannot be read in any way.
4. The tags that are found, put together again, make up what is left.
5. The name that is made of a key without `_` behind its first character and of a
   value is recognised as that dictionary, unless it is the string's name or that of
   a list. -/
theorem ofName?_grammar (settings : Settings) (name : String) :
    ∃ bare, (∀ b, Bare settings name b ↔ b = bare) ∧
      (∀ c, ofName? settings name = some c ↔ Denotes settings bare c) ∧
      (ofName? settings name = none ↔ ∀ c, ¬ Spells settings bare c) ∧
      (∀ c, ofName? settings name = some c → structName settings c = bare) ∧
      ∀ key value, IsWord key → '_' ∉ key.toList.tail → IsWord value →
        name = structName settings (dict key value) → ¬ Qualified settings name →
        (ofName? settings name = some (dict key value) ↔
          name ≠ settings.stringName ∧ ∀ elem, ¬ Spells settings name (list elem)) := by
  have hbare := bare_unqualified settings name
  refine ⟨String.ofList (unqualified settings name.toList), ?_, ?_, ?_, ?_, ?_⟩
  · intro b
    rw [bare_iff, ← String.toList_inj, String.toList_ofList]
  · intro c
    rw [ofName?_eq_of_bare hbare, ofUnqualified?_eq_some_iff]
  · rw [ofName?_eq_of_bare hbare]
    constructor
    · intro none c spelled
      obtain ⟨d, found⟩ := spelled.exists_ofUnqualified?
      rw [none] at found
      cases found
    · intro unread
      refine Option.eq_none_iff_forall_ne_some.mpr ?_
      intro c found
      exact unread c (ofUnqualified?_eq_some_iff.mp found).spells
  · intro c found
    rw [ofName?_eq_of_bare hbare, ofUnqualified?_eq_some_iff] at found
    exact found.spells.1.symm
  · intro key value hword hkey hvalue hname unqualified
    have spelled : Spells settings name (dict key value) := ⟨hname, hword, hvalue⟩
    rw [ofName?_eq_of_bare (.plain unqualified), ofUnqualified?_eq_some_iff]
    constructor
    · intro h
      cases h with
      | dict notText notList => exact ⟨fun same => notText (spells_text_iff.mpr same), notList⟩
    · rintro ⟨notText, notList⟩
      exact .dict (fun h => notText (spells_text_iff.mp h)) notList spelled
        (length_le_of_spells_dict hkey spelled)

/-- A key that begins with `_`, and a value that holds one. -/
theorem ofName?_grammar_underscores :
    IsWord "_A" ∧ '_' ∉ "_A".toList.tail ∧ IsWord "B_C" ∧
      ofName? {} "__lang_rt_Dict__A_B_C" = some (dict "_A" "B_C") := by
  have hkey : IsWord "_A" := isWord_iff_isWord_toList.mpr (by decide)
  have hvalue : IsWord "B_C" := isWord_iff_isWord_toList.mpr (by decide)
  have hbare : ¬ Qualified {} "__lang_rt_Dict__A_B_C" := by
    rintro ⟨-, rest, h⟩
    have front := congrArg String.toList h
    rw [String.toList_append] at front
    exact absurd (List.cons.inj front).1 (by decide)
  have notList : ∀ elem, ¬ Spells {} "__lang_rt_Dict__A_B_C" (list elem) := by
    intro elem h
    rw [spells_list_iff] at h
    cases h
  obtain ⟨-, -, -, -, -, back⟩ := ofName?_grammar {} "__lang_rt_Dict__A_B_C"
  exact ⟨hkey, by decide, hvalue,
    (back "_A" "B_C" hkey (by decide) hvalue rfl hbare).mpr ⟨by decide, notList⟩⟩

end HeapLens.Container
