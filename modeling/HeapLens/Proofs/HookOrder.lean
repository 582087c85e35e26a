import HeapLens.Session
import Mathlib.Data.Finset.Card
import Mathlib.Data.Finset.Dedup

/-!
# The order of first offers decides

Hooks are offered to a session one after the other, some of them again, and some
under a name that is taken. What comes of it is said here in two steps, one for the
names and one for the claims:

> `hooks_registerAll`: offers add to a registry the first hook of each name that it
> does not have yet, behind those that are there.
> `firstClaim_append`: hooks that decline take no part in the answer; what they do
> while they are asked comes before what those behind them do.

So a hook never changes its place, and a value that is claimed once is claimed by
the same hook after any further offers (`lookup_registerAll`).
-/

namespace HeapLens

/-- The first hook of each name, in order. -/
def Hook.firstOffers (offers : List Hook) : List Hook :=
  offers.eraseDupsBy fun later earlier => later.name == earlier.name

/-- The registry after hooks were offered to it one after the other. -/
def Registry.registerAll (registry : Registry) (offers : List Hook) : Registry :=
  offers.foldl register registry

/-- The session after hooks were offered to it one after the other. -/
def Session.offer (s : Session) (offers : List Hook) : Session :=
  offers.foldl (fun s hook => ((register hook).run s).2) s

/-- Hooks are asked in order, up to the first that claims the value: that one gives
the printer, and what happens is what it and those in front of it do. Those behind
it could as well be others. -/
structure Registry.AsksInOrder (registry : Registry) (program : Program) (settings : Settings)
    (v : Value) : Prop where
  claimed : ∀ front hook behind printer, registry.hooks = front ++ hook :: behind →
    (∀ other ∈ front, (other.claim program settings v).value = none) →
    (hook.claim program settings v).value = some printer →
    registry.lookup program settings v =
      ⟨some printer,
        (front ++ [hook]).flatMap fun asked => (asked.claim program settings v).events⟩ ∧
    ∀ others, Registry.lookup ⟨front ++ hook :: others⟩ program settings v =
      registry.lookup program settings v
  declined : (∀ hook ∈ registry.hooks, (hook.claim program settings v).value = none) →
    registry.lookup program settings v =
      ⟨none, registry.hooks.flatMap fun asked => (asked.claim program settings v).events⟩

/-! ## Names -/

theorem Hook.firstOffers_cons (hook : Hook) (offers : List Hook) :
    firstOffers (hook :: offers) =
      hook :: firstOffers (offers.filter fun other => !(other.name == hook.name)) := by
  unfold firstOffers
  rw [List.eraseDupsBy_cons]
  simp only [Bool.decide_eq_false]

namespace Registry

/-- A hook is put behind the others, or turned away if its name is taken. -/
theorem hooks_register (registry : Registry) (hook : Hook) :
    (registry.register hook).hooks =
      if registry.isRegistered hook.name then registry.hooks else registry.hooks ++ [hook] := by
  unfold register
  split <;> rfl

/-- What is registered stays where it is, and the first offers under new names come
behind it. -/
theorem hooks_registerAll (offers : List Hook) : ∀ registry : Registry,
    (registry.registerAll offers).hooks =
      registry.hooks ++
        Hook.firstOffers (offers.filter fun hook => !registry.isRegistered hook.name) := by
  induction offers with
  | nil =>
    intro registry
    exact (List.append_nil _).symm
  | cons hook offers ih =>
    intro registry
    have rest := ih (registry.register hook)
    rw [hooks_register] at rest
    show ((registry.register hook).registerAll offers).hooks = _
    simp only [isRegistered_register] at rest
    rw [rest, List.filter_cons]
    cases there : registry.isRegistered hook.name with
    | true =>
      -- The offer is turned away, and its name was excluded before.
      have same : ∀ other : Hook, (!(registry.isRegistered other.name || hook.name == other.name)) =
          !registry.isRegistered other.name := by
        intro other
        cases equal : hook.name == other.name with
        | false => rw [Bool.or_false]
        | true => rw [← eq_of_beq equal, there]; rfl
      simp [same]
    | false =>
      have both : ∀ other : Hook, (!(registry.isRegistered other.name || hook.name == other.name)) =
          (!(other.name == hook.name) && !registry.isRegistered other.name) := by
        intro other
        rw [Bool.not_or, Bool.and_comm, BEq.comm]
      simp [both, Hook.firstOffers_cons, List.filter_filter]

/-- A name is taken if it was taken before, or if it is offered. -/
theorem isRegistered_registerAll (offers : List Hook) (name : String) : ∀ registry : Registry,
    (registry.registerAll offers).isRegistered name =
      (registry.isRegistered name || offers.any fun hook => hook.name == name) := by
  induction offers with
  | nil =>
    intro registry
    exact (Bool.or_false _).symm
  | cons hook offers ih =>
    intro registry
    show ((registry.register hook).registerAll offers).isRegistered name = _
    rw [ih, isRegistered_register, List.any_cons, Bool.or_assoc]

theorem isRegistered_iff {registry : Registry} {name : String} :
    registry.isRegistered name = true ↔ name ∈ registry.hooks.map Hook.name := by
  simp [isRegistered]

/-- No two hooks have one name. -/
def Distinct (registry : Registry) : Prop := (registry.hooks.map Hook.name).Nodup

theorem distinct_empty : empty.Distinct := List.nodup_nil

/-- The step: a registration keeps the names apart. -/
theorem Distinct.register {registry : Registry} (h : registry.Distinct) (hook : Hook) :
    (registry.register hook).Distinct := by
  unfold Distinct
  rw [hooks_register]
  split
  · exact h
  · next new =>
    rw [isRegistered_iff] at new
    rw [List.map_append, List.nodup_append]
    refine ⟨h, List.nodup_singleton _, ?_⟩
    intro name there other same equal
    rw [List.map_singleton, List.mem_singleton] at same
    rw [equal, same] at there
    exact new there

/-- The run: so do any number of them. -/
theorem Distinct.registerAll (offers : List Hook) : ∀ registry : Registry, registry.Distinct →
    (registry.registerAll offers).Distinct := by
  induction offers with
  | nil => exact fun _ h => h
  | cons hook offers ih => exact fun registry h => ih (registry.register hook) (h.register hook)

/-- What an empty registry makes of some offers has their names. -/
theorem isRegistered_registerAll_empty {offers : List Hook} {name : String} :
    (empty.registerAll offers).isRegistered name = true ↔ ∃ hook ∈ offers, hook.name = name := by
  rw [isRegistered_registerAll]
  simp [isRegistered, empty]

/-- There are as many hooks as names were offered. -/
theorem length_registerAll_empty (offers : List Hook) :
    (empty.registerAll offers).hooks.length = (offers.map Hook.name).toFinset.card := by
  have distinct : (empty.registerAll offers).Distinct :=
    Distinct.registerAll offers empty distinct_empty
  have names : ((empty.registerAll offers).hooks.map Hook.name).toFinset =
      (offers.map Hook.name).toFinset := by
    ext name
    rw [List.mem_toFinset, List.mem_toFinset, ← isRegistered_iff, isRegistered_registerAll_empty,
      List.mem_map]
  rw [← names, List.toFinset_card_of_nodup distinct, List.length_map]

end Registry

/-! ## Claims -/

section

variable {program : Program} {settings : Settings} {v : Value} {hook : Hook} {printer : Printer}

/-- Behind a hook that claims the value none is asked. -/
theorem Hook.firstClaim_cons_of_claimed (h : (hook.claim program settings v).value = some printer)
    (behind : List Hook) :
    firstClaim program settings v (hook :: behind) =
      ⟨some printer, (hook.claim program settings v).events⟩ := by
  apply Traced.ext <;> simp [firstClaim, h]

/-- A hook that declines has been asked, and the next one is. -/
theorem Hook.firstClaim_cons_of_declined (h : (hook.claim program settings v).value = none)
    (behind : List Hook) :
    firstClaim program settings v (hook :: behind) =
      ⟨(firstClaim program settings v behind).value,
        (hook.claim program settings v).events ++
          (firstClaim program settings v behind).events⟩ := by
  apply Traced.ext <;> simp [firstClaim, h]

/-- Hooks that decline are asked one after the other, and then those behind them. -/
theorem Hook.firstClaim_append {front : List Hook}
    (h : ∀ hook ∈ front, (hook.claim program settings v).value = none) (behind : List Hook) :
    firstClaim program settings v (front ++ behind) =
      ⟨(firstClaim program settings v behind).value,
        (front.flatMap fun asked => (asked.claim program settings v).events) ++
          (firstClaim program settings v behind).events⟩ := by
  induction front with
  | nil => rfl
  | cons hook front ih =>
    obtain ⟨declined, rest⟩ := List.forall_mem_cons.mp h
    rw [List.cons_append, firstClaim_cons_of_declined declined, ih rest, List.flatMap_cons,
      List.append_assoc]

/-- The first claim is that of the first hook that makes one. -/
theorem Hook.value_firstClaim (hooks : List Hook) :
    (firstClaim program settings v hooks).value =
      hooks.findSome? fun hook => (hook.claim program settings v).value := by
  induction hooks with
  | nil => rfl
  | cons hook hooks ih =>
    rw [List.findSome?_cons]
    cases claimed : (hook.claim program settings v).value with
    | some printer => rw [firstClaim_cons_of_claimed claimed]
    | none => rw [firstClaim_cons_of_declined claimed, ih]

namespace Registry

/-- The order of the hooks is the order in which they are asked. -/
theorem asksInOrder (registry : Registry) (program : Program) (settings : Settings) (v : Value) :
    registry.AsksInOrder program settings v where
  claimed front hook behind printer hooks declined claimed := by
    have found : ∀ others, Registry.lookup ⟨front ++ hook :: others⟩ program settings v =
        ⟨some printer,
          (front ++ [hook]).flatMap fun asked => (asked.claim program settings v).events⟩ := by
      intro others
      unfold lookup
      rw [Hook.firstClaim_append declined, Hook.firstClaim_cons_of_claimed claimed,
        List.flatMap_append, List.flatMap_singleton]
    obtain rfl : registry = ⟨front ++ hook :: behind⟩ := congrArg Registry.mk hooks
    exact ⟨found behind, fun others => (found others).trans (found behind).symm⟩
  declined declined := by
    have all := Hook.firstClaim_append declined []
    rw [List.append_nil] at all
    unfold lookup
    rw [all, Hook.firstClaim, Traced.events_pure, List.append_nil]
    rfl

/-- Offers come behind the hooks that are there, so that none of these loses a
value. -/
theorem lookup_registerAll {registry : Registry} (offers : List Hook)
    (h : ∃ hook ∈ registry.hooks, (hook.claim program settings v).value ≠ none) :
    (registry.registerAll offers).lookup program settings v =
      registry.lookup program settings v := by
  obtain ⟨printer, found⟩ :
      ∃ printer, (Hook.firstClaim program settings v registry.hooks).value = some printer := by
    rw [Hook.value_firstClaim, ← Option.isSome_iff_exists, List.findSome?_isSome_iff]
    simpa only [Option.isSome_iff_ne_none] using h
  unfold lookup
  rw [hooks_registerAll, lookup_append found]

end Registry

end

/-! ## Sessions -/

namespace Session

/-- Each offer registers a hook or changes nothing. -/
theorem registry_offer (offers : List Hook) : ∀ s : Session,
    (s.offer offers).registry = s.registry.registerAll offers := by
  induction offers with
  | nil => exact fun _ => rfl
  | cons hook offers ih => exact fun s => ih ((register hook).run s).2

/-- **The order of first offers decides, and is never disturbed.** Hooks are offered
to a session that has none, the runtime's like any other. An offer is taken exactly
if its name was not offered before; registered is the first hook of each name, in
the order of the offers; its names are those that were offered, as many as differ. A
value is shown by the first hook that does not decline it, and those behind are not
asked; if there is one, no further offers change what comes of looking the value
up. -/
theorem first_offers_decide (s : Session) (offers : List Hook) :
    let now := Session.offer { s with registry := .empty } offers
    (∀ hook, ((register hook).run now).1 = true ↔
      ∀ earlier ∈ offers, earlier.name ≠ hook.name) ∧
    now.registry.hooks = Hook.firstOffers offers ∧
    (∀ name, now.registry.isRegistered name = true ↔ ∃ hook ∈ offers, hook.name = name) ∧
    now.registry.hooks.length = (offers.map Hook.name).toFinset.card ∧
    (∀ program settings v, now.registry.AsksInOrder program settings v) ∧
    (∀ program settings v,
      (∃ hook ∈ now.registry.hooks, (hook.claim program settings v).value ≠ none) →
      ∀ later, (now.offer later).registry.lookup program settings v =
        now.registry.lookup program settings v) := by
  intro now
  have registry : now.registry = Registry.empty.registerAll offers := registry_offer offers _
  refine ⟨?_, ?_, ?_, ?_, ?_, ?_⟩
  · intro hook
    show (!now.registry.isRegistered hook.name) = true ↔ _
    rw [Bool.not_eq_true', ← Bool.not_eq_true, registry,
      Registry.isRegistered_registerAll_empty]
    simp
  · rw [registry, Registry.hooks_registerAll]
    simp [Registry.isRegistered, Registry.empty]
  · intro name
    rw [registry]
    exact Registry.isRegistered_registerAll_empty
  · rw [registry]
    exact Registry.length_registerAll_empty offers
  · exact fun program settings v => now.registry.asksInOrder program settings v
  · intro program settings v claimed later
    rw [registry_offer]
    exact Registry.lookup_registerAll later claimed

/-- A hook that takes all values for strings is offered before the runtime's, and is
the one that is asked, whatever is offered behind them under its name. -/
theorem first_offers_decide_strings :
    let strings := Hook.always "strings" (some .text) none
    let nothing := Hook.always "strings" none none
    let program : Program := ⟨.empty, Snapshot.empty.memory⟩
    let v : Value := .stored 0x10 0
    let now := Session.offer {} [strings, .runtime, nothing, .runtime]
    now.registry.hooks = [strings, .runtime] ∧
    now.registry.hooks.length = 2 ∧
    ((register nothing).run now).1 = false ∧
    now.registry.isRegistered "lang_rt" = true ∧
    now.registry.lookup program {} v = ⟨some ⟨v, .text⟩, []⟩ ∧
    (now.offer [nothing]).registry.lookup program {} v = ⟨some ⟨v, .text⟩, []⟩ := by
  intro strings nothing program v now
  obtain ⟨answers, hooks, names, length, asks, kept⟩ :=
    first_offers_decide {} [strings, .runtime, nothing, .runtime]
  have registered : now.registry.hooks = [strings, .runtime] := hooks
  have claimed : (strings.claim program {} v).value = some ⟨v, .text⟩ := rfl
  have found : now.registry.lookup program {} v = ⟨some ⟨v, .text⟩, []⟩ :=
    ((asks program {} v).claimed [] strings [.runtime] _ registered (by simp) claimed).1
  refine ⟨registered, ?_, ?_, ?_, found, ?_⟩
  · exact length
  · rw [← Bool.not_eq_true]
    intro taken
    exact (answers nothing).mp taken strings (by simp) rfl
  · exact (names "lang_rt").mpr ⟨.runtime, by simp, rfl⟩
  · rw [← found]
    refine kept program {} v ⟨strings, ?_, ?_⟩ [nothing]
    · rw [registered]
      exact List.mem_cons_self
    · rw [claimed]
      exact Option.some_ne_none _

end Session

end HeapLens
