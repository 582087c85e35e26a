import HeapLens.Memory.Snapshot
import HeapLens.Proofs.NameGrammar
import HeapLens.Registry

/-!
# What the runtime's hook claims

A value is recognised by how a type is spelled, not by the type itself. The spelling
adds to a name: a word in front, as in `struct Foo`, or marks behind it, as in
`Foo *` and `Foo[4]`. With the usual settings only names that are words all through
are recognised, so that a character which is in no word and is not taken off with
the qualifier gives such a spelling away (`ofName?_eq_none_of_mem`).

> `ofName?_spell_eq_some_iff`: a type is recognised by its own name, or not at all.

That leaves the structs, which the qualifier fits, and the primitive types and
typedefs, which go by their names. What such a name denotes is shown with the names
that its tags stand for (`ShownAs`).
-/

namespace HeapLens.Container

/-! ## Types by which values are recognised -/

/-- The type that a value of type `t` is recognised by: what it points to, if it is
a pointer. -/
def subjectType (types : TypeTable) (t : TypeId) : TypeId :=
  match types.shape (types.strip t) with
  | .pointer target _ => target
  | _ => t

/-- A type goes by this bare name. A struct does not lose another qualifier. -/
inductive Named : TypeEntry → String → Prop where
  | struct {e : TypeEntry} {record : Record} (shape : e.shape = .record record)
      (notUnion : record.isUnion = false) (named : e.name ≠ "") : Named e e.name
  | primitive {e : TypeEntry} {traits : Traits} {bare : String}
      (shape : e.shape = .primitive traits) (bareName : Bare {} e.name bare) : Named e bare
  | typedef {e : TypeEntry} {target : TypeId} {bare : String}
      (shape : e.shape = .typedef target) (bareName : Bare {} e.name bare) : Named e bare

/-- Types that are never recognised, whatever they are called. -/
inductive Nameless : TypeEntry → Prop where
  | unknown {e : TypeEntry} (shape : e.shape = .unknown) : Nameless e
  | pointer {e : TypeEntry} {target : TypeId} {reference : Bool}
      (shape : e.shape = .pointer target reference) : Nameless e
  | array {e : TypeEntry} {elem : TypeId} {length : Nat} (shape : e.shape = .array elem length) :
      Nameless e
  | union {e : TypeEntry} {record : Record} (shape : e.shape = .record record)
      (isUnion : record.isUnion = true) : Nameless e
  | unnamed {e : TypeEntry} {record : Record} (shape : e.shape = .record record)
      (noName : e.name = "") : Nameless e

variable {name bare : String} {c : Container} {ch : Char} {types : TypeTable} {t : TypeId}

/-! ## Recognised names are words -/

/-- With the usual settings the names of all structs are words all through. -/
theorem isWordChar_of_spells (h : Spells {} bare c) (hmem : ch ∈ bare.toList) :
    isWordChar ch = true := by
  have ofWord : ∀ {s : String}, IsWord s → ∀ d ∈ s.toList, isWordChar d = true :=
    fun hword => (isWord_iff.mp (isWord_iff_isWord_toList.mp hword)).2
  obtain ⟨rfl, tagged⟩ := h
  cases c with
  | text =>
    have all : ({} : Settings).stringName.toList.all isWordChar = true := by decide
    exact List.all_eq_true.mp all ch hmem
  | list elem =>
    have all : (({} : Settings).listStem ++ "_").toList.all isWordChar = true := by decide
    rw [structName, String.toList_append, List.mem_append] at hmem
    rcases hmem with hmem | hmem
    · exact List.all_eq_true.mp all ch hmem
    · exact ofWord tagged ch hmem
  | dict key value =>
    have all : (({} : Settings).dictStem ++ "_").toList.all isWordChar = true := by decide
    have between : "_".toList.all isWordChar = true := by decide
    rw [structName, String.toList_append, String.toList_append, String.toList_append,
      List.mem_append, List.mem_append, List.mem_append] at hmem
    rcases hmem with ((hmem | hmem) | hmem) | hmem
    · exact List.all_eq_true.mp all ch hmem
    · exact ofWord tagged.1 ch hmem
    · exact List.all_eq_true.mp between ch hmem
    · exact ofWord tagged.2 ch hmem

/-- With the usual settings one word is taken off, or nothing. -/
theorem Bare.eq_append (h : Bare {} name bare) : name = bare ∨ name = "struct " ++ bare := by
  cases h with
  | qualified some => exact Or.inr rfl
  | plain none => exact Or.inl rfl

/-- A character that is in no word gives away that a name is not recognised. -/
theorem ofName?_eq_none_of_mem (ch : Char) (hmem : ch ∈ name.toList)
    (hqualifier : ch ∉ "struct ".toList) (hch : isWordChar ch = false) :
    ofName? {} name = none := by
  refine Option.eq_none_iff_forall_ne_some.mpr ?_
  intro c found
  obtain ⟨bare, hbare, hdenotes⟩ := ofName?_eq_some_iff.mp found
  have hstays : ch ∈ bare.toList := by
    rcases hbare.eq_append with rfl | rfl
    · exact hmem
    · rw [String.toList_append, List.mem_append] at hmem
      exact hmem.resolve_left hqualifier
  rw [isWordChar_of_spells hdenotes.spells hstays] at hch
  cases hch

/-- Of a union the first word is not taken off. -/
theorem ofName?_union_eq_none (s : String) : ofName? {} ("union " ++ s) = none := by
  refine Option.eq_none_iff_forall_ne_some.mpr ?_
  intro c found
  obtain ⟨bare, hbare, hdenotes⟩ := ofName?_eq_some_iff.mp found
  rcases hbare.eq_append with rfl | h
  · have hblank : ' ' ∈ ("union " ++ s).toList := by
      rw [String.toList_append]
      exact List.mem_append_left _ (by decide)
    exact absurd (isWordChar_of_spells hdenotes.spells hblank) (by decide)
  · have front := congrArg String.toList h
    rw [String.toList_append, String.toList_append] at front
    exact absurd (List.cons.inj front).1 (by decide)

/-- The name of a struct loses the word in front, and no other. -/
theorem bare_struct_iff : Bare {} ("struct " ++ name) bare ↔ bare = name := by
  rw [bare_iff, String.toList_append, ← String.toList_inj]
  rfl

/-! ## Types are recognised by their names -/

/-- A type that is never recognised goes by no name. -/
theorem not_named_of_nameless {e : TypeEntry} (h : Nameless e) : ¬ Named e bare := by
  intro named
  cases named <;> cases h <;> simp_all

/-- The spelling of a nameless type has a character in it that no name has, or a
word in front that is not taken off. -/
theorem ofName?_spell_of_nameless (h : Nameless (types.entry t)) :
    ofName? {} (types.spell t) = none := by
  cases h with
  | unknown shape =>
    rw [TypeTable.spell_of_unknown shape]
    exact ofName?_eq_none_of_mem '<' (by decide) (by decide) (by decide)
  | @pointer target reference shape =>
    rw [TypeTable.spell_of_pointer shape]
    cases reference with
    | true =>
      refine ofName?_eq_none_of_mem '&' ?_ (by decide) (by decide)
      rw [String.toList_append]
      exact List.mem_append_right _ (by decide)
    | false =>
      refine ofName?_eq_none_of_mem '*' ?_ (by decide) (by decide)
      rw [String.toList_append]
      exact List.mem_append_right _ (by decide)
  | array shape =>
    rw [TypeTable.spell_of_array shape]
    refine ofName?_eq_none_of_mem ']' ?_ (by decide) (by decide)
    rw [String.toList_append]
    exact List.mem_append_right _ (by decide)
  | union shape isUnion =>
    rw [TypeTable.spell_of_record shape, TypeTable.spellRecord, if_pos isUnion]
    exact ofName?_union_eq_none _
  | unnamed shape noName =>
    rw [TypeTable.spell_of_record shape, TypeTable.spellRecord, if_pos noName]
    refine ofName?_eq_none_of_mem '\x7b' ?_ (by decide) (by decide)
    rw [String.toList_append]
    exact List.mem_append_right _ (by decide)

/-- A type is recognised by the name that it goes by. -/
theorem ofName?_spell_eq_some_iff :
    ofName? {} (types.spell t) = some c ↔
      ∃ bare, Named (types.entry t) bare ∧ Denotes {} bare c := by
  by_cases nameless : Nameless (types.entry t)
  · rw [ofName?_spell_of_nameless nameless]
    constructor
    · intro h
      cases h
    · rintro ⟨bare, named, -⟩
      exact absurd named (not_named_of_nameless nameless)
  · rw [ofName?_eq_some_iff]
    refine exists_congr fun bare => and_congr_left fun _ => ?_
    cases shape : (types.entry t).shape with
    | unknown => exact absurd (.unknown shape) nameless
    | pointer target reference => exact absurd (.pointer shape) nameless
    | array elem length => exact absurd (.array shape) nameless
    | primitive traits =>
      rw [TypeTable.spell_of_primitive shape]
      constructor
      · exact .primitive shape
      · intro named
        cases named with
        | primitive _ bareName => exact bareName
        | struct other | typedef other => rw [shape] at other; cases other
    | typedef target =>
      rw [TypeTable.spell_of_typedef shape]
      constructor
      · exact .typedef shape
      · intro named
        cases named with
        | typedef _ bareName => exact bareName
        | struct other | primitive other => rw [shape] at other; cases other
    | record record =>
      have notUnion : record.isUnion = false :=
        Bool.eq_false_iff.mpr fun isUnion => nameless (.union shape isUnion)
      have hasName : (types.entry t).name ≠ "" := fun noName => nameless (.unnamed shape noName)
      rw [TypeTable.spell_of_record shape, TypeTable.spellRecord, notUnion,
        if_neg Bool.false_ne_true, if_neg hasName, bare_struct_iff]
      constructor
      · rintro rfl
        exact .struct shape notUnion hasName
      · intro named
        cases named with
        | struct => rfl
        | primitive other | typedef other => rw [shape] at other; cases other

/-! ## Values -/

/-- What a type is shown as: as what the name that it goes by denotes, with the
names of the elements, keys and values that the tags stand for. -/
inductive ShownAs (e : TypeEntry) : Container → Prop where
  | text {bare : String} (named : Named e bare) (denotes : Denotes {} bare text) : ShownAs e text
  | list {bare elem : String} (named : Named e bare) (denotes : Denotes {} bare (list elem)) :
      ShownAs e (list (tagName elem))
  | dict {bare key value : String} (named : Named e bare)
      (denotes : Denotes {} bare (dict key value)) : ShownAs e (dict (tagName key) (tagName value))

/-- The spelling of a type gives what the type is shown as. -/
theorem map_named_ofName?_spell_eq_some_iff :
    (ofName? {} (types.spell t)).map named = some c ↔ ShownAs (types.entry t) c := by
  simp only [Option.map_eq_some_iff, ofName?_spell_eq_some_iff]
  constructor
  · rintro ⟨tags, ⟨bare, goesBy, denotes⟩, rfl⟩
    cases tags with
    | text => exact .text goesBy denotes
    | list elem => exact .list goesBy denotes
    | dict key value => exact .dict goesBy denotes
  · intro h
    cases h with
    | text goesBy denotes => exact ⟨_, ⟨_, goesBy, denotes⟩, named_eq_text_iff.mpr rfl⟩
    | list goesBy denotes =>
      exact ⟨_, ⟨_, goesBy, denotes⟩, named_eq_list_iff.mpr ⟨_, rfl, rfl⟩⟩
    | dict goesBy denotes =>
      exact ⟨_, ⟨_, goesBy, denotes⟩, named_eq_dict_iff.mpr ⟨_, _, rfl, rfl, rfl⟩⟩

/-- A value is recognised by the spelling of one type. The unknown type has one too,
but that is no name. -/
theorem ofValue?_eq (memory : Memory) (place : Place) :
    ofValue? ⟨types, memory⟩ {} ⟨place, t⟩ = ofName? {} (types.spell (subjectType types t)) := by
  unfold ofValue? subjectName subjectType Program.isPointer Program.pointeeName Program.shape
    Program.resolve TypeTable.resolve
  cases shape : types.shape (types.strip t) with
  | pointer target reference =>
    unfold TypeTable.shape at shape
    simp only [shape]
    rfl
  | unknown | primitive traits | array elem length | record record | typedef target =>
    unfold TypeTable.shape at shape
    simp only [shape]
    unfold Program.typeName
    cases own : types.shape t with
    | unknown => exact (ofName?_spell_of_nameless (.unknown own)).symm
    | primitive _ | pointer _ _ | array _ _ | record _ | typedef _ => rfl

/-- **What the runtime's hook claims**, with the usual settings:

1. Whether a value is claimed, and as what, is a matter of its type. What is in
   memory does not matter, nor does it where the value is; nothing is read, and no
   note is left.
2. It is claimed exactly if what it is recognised by goes by a name in the grammar,
   and it is shown as what that name denotes: a list of elements, or a dictionary of
   keys and values, that are called what the tags in the name stand for.
3. Unions, structs without a name, arrays, pointers to pointers, and types that are
   unknown or not in the table are never claimed. -/
theorem runtime_claim (types : TypeTable) (t : TypeId) :
    ∃ answer : Option Container,
      (∀ memory place, Hook.runtime.claim ⟨types, memory⟩ {} ⟨place, t⟩ =
        ⟨answer.map fun c => ⟨⟨place, t⟩, c⟩, []⟩) ∧
      (∀ c, answer = some c ↔ ShownAs (types.entry (subjectType types t)) c) ∧
      (types.size ≤ subjectType types t ∨ Nameless (types.entry (subjectType types t)) →
        answer = none) := by
  refine ⟨(ofName? {} (types.spell (subjectType types t))).map named, ?_, ?_, ?_⟩
  · intro memory place
    rw [Option.map_map, ← ofValue?_eq memory place]
    rfl
  · intro c
    exact map_named_ofName?_spell_eq_some_iff
  · intro never
    have nameless : Nameless (types.entry (subjectType types t)) := by
      rcases never with outside | nameless
      · refine .unknown ?_
        rw [TypeTable.entry_of_size_le outside]
        rfl
      · exact nameless
    rw [ofName?_spell_of_nameless nameless]
    rfl

/-! ### Names with tags and with the qualifier in them -/

/-- A struct whose own name begins with the qualifier, a typedef of that name, a
list and a dictionary, and a pointer to each of them. -/
def qualifiedTypes : TypeTable :=
  ⟨#[.unknown, ⟨"struct __lang_rt_Str", 0, 1, .record { fields := [] }⟩,
    TypeTable.typedefEntry "struct __lang_rt_Str" 1,
    ⟨"__lang_rt_List_I64", 0, 1, .record { fields := [] }⟩,
    ⟨"__lang_rt_Dict_STR_Point", 0, 1, .record { fields := [] }⟩,
    TypeTable.pointerEntry 1, TypeTable.pointerEntry 2, TypeTable.pointerEntry 3,
    TypeTable.pointerEntry 4]⟩

/-- The typedef loses its qualifier and is claimed. The struct loses the word in
front of its name instead, and is not. In the names of the others `I64` and `STR`
are tags of the language's own, and `Point` is not. -/
theorem runtime_claim_qualified :
    let claim (t : TypeId) :=
      Hook.runtime.claim ⟨qualifiedTypes, Snapshot.empty.memory⟩ {} (.held 0 t)
    claim 5 = ⟨none, []⟩ ∧ claim 6 = ⟨some ⟨.held 0 6, .text⟩, []⟩ ∧
      claim 7 = ⟨some ⟨.held 0 7, .list "i64"⟩, []⟩ ∧
      claim 8 = ⟨some ⟨.held 0 8, .dict "str" "Point"⟩, []⟩ := by
  refine ⟨?_, ?_, ?_, ?_⟩
  · obtain ⟨answer, hclaim, hanswer, -⟩ := runtime_claim qualifiedTypes 5
    have missing : answer = none := by
      refine Option.eq_none_iff_forall_ne_some.mpr ?_
      intro c found
      have notNamed : ∀ bare tags, Named (qualifiedTypes.entry 1) bare →
          ¬ Denotes {} bare tags := by
        intro bare tags goesBy denotes
        cases goesBy with
        | struct =>
          have hblank : ' ' ∈ "struct __lang_rt_Str".toList := by decide
          exact absurd (isWordChar_of_spells denotes.spells hblank) (by decide)
        | primitive other | typedef other => cases other
      cases (hanswer c).mp found with
      | text goesBy denotes | list goesBy denotes | dict goesBy denotes =>
        exact notNamed _ _ goesBy denotes
    rw [missing] at hclaim
    exact hclaim _ _
  · obtain ⟨answer, hclaim, hanswer, -⟩ := runtime_claim qualifiedTypes 6
    have same : (qualifiedTypes.entry 2).name = "struct " ++ "__lang_rt_Str" := by decide
    have goesBy : Named (qualifiedTypes.entry 2) "__lang_rt_Str" :=
      .typedef rfl (same ▸ bare_struct_iff.mpr rfl)
    have found : answer = some .text := (hanswer .text).mpr (.text goesBy (.text ⟨rfl, trivial⟩))
    rw [found] at hclaim
    exact hclaim _ _
  · obtain ⟨answer, hclaim, hanswer, -⟩ := runtime_claim qualifiedTypes 7
    have goesBy : Named (qualifiedTypes.entry 3) "__lang_rt_List_I64" := .struct rfl rfl (by decide)
    have denotes : Denotes {} "__lang_rt_List_I64" (.list "I64") :=
      ofUnqualified?_eq_some_iff.mp (by decide)
    have elem : tagName "I64" = "i64" := tagName_of_mem (by decide)
    have found : answer = some (.list "i64") := (hanswer _).mpr (elem ▸ .list goesBy denotes)
    rw [found] at hclaim
    exact hclaim _ _
  · obtain ⟨answer, hclaim, hanswer, -⟩ := runtime_claim qualifiedTypes 8
    have goesBy : Named (qualifiedTypes.entry 4) "__lang_rt_Dict_STR_Point" :=
      .struct rfl rfl (by decide)
    have denotes : Denotes {} "__lang_rt_Dict_STR_Point" (.dict "STR" "Point") :=
      ofUnqualified?_eq_some_iff.mp (by decide)
    have key : tagName "STR" = "str" := tagName_of_mem (by decide)
    have value : tagName "Point" = "Point" := tagName_of_not_mem (by decide)
    have shown := ShownAs.dict goesBy denotes
    rw [key, value] at shown
    have found : answer = some (.dict "str" "Point") := (hanswer _).mpr shown
    rw [found] at hclaim
    exact hclaim _ _

end HeapLens.Container
