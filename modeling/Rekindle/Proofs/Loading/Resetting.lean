import Rekindle.Proofs.Machine.Ahead
import Rekindle.Proofs.Machine.Storage

/-!
# Resetting fields

The fields of an instantiation go back to what fresh storage of it holds, one after the other, and
no other slot changes. The instructions that reset a field do so in a thread that goes on with the
instantiation as it is.
-/

namespace Rekindle.Machine

open Fallible Reload

/-! ### Instantiations that are there -/

/-- An instantiation that a thread goes on with as it is, with a number of slots. The thread waits
for nothing. -/
structure Store.Serves (thread : ThreadId) (store : Store) (instantiation : Instantiation)
    (count : Nat) : Prop where
  awake : store.waits.next? thread = none
  usable : ∃ storage, store.storage? instantiation = some storage ∧
    storage.slots.size = count ∧ (storage.status.ask store.waits thread instantiation).1 = .ready

namespace Store

variable {thread : ThreadId} {store : Store} {instantiation : Instantiation} {count : Nat}

theorem erase_of_awake {waits : Waits Instantiation} (awake : waits.next? thread = none) :
    waits.erase thread = waits := by
  simp only [Waits.next?, Option.map_eq_none_iff, List.find?_eq_none] at awake
  have kept : waits.edges.filter (fun edge => edge.waiter ≠ thread) = waits.edges := by
    apply List.filter_eq_self.mpr
    intro edge listed
    simpa using awake edge listed
  rw [Waits.erase, kept]

theorem status_of_ready {status : Status Trap} {waits : Waits Instantiation}
    (ready : (status.ask waits thread instantiation).1 = .ready) :
    status.ask waits thread instantiation = (.ready, status, waits.erase thread) := by
  cases status with
  | pending | failed => cases ready
  | done => rfl
  | running owner =>
      simp only [Status.ask] at ready ⊢
      split at ready
      · rename_i goesOn
        rw [if_pos goesOn]
      · cases ready

/-- Asking for an instantiation that is there changes nothing. -/
theorem Serves.ask (serves : store.Serves thread instantiation count) :
    store.ask thread instantiation = .ok (store, .ready) := by
  rcases serves.usable with ⟨storage, found, _, ready⟩
  have same : { storage with status := storage.status } = storage := rfl
  have unchanged : store.updateStorage instantiation
      (fun kept => { kept with status := storage.status }) = store := updateStorage_self found same
  simp only [Store.ask, demand, found, ok_bind, status_of_ready ready, unchanged,
    erase_of_awake serves.awake]
  rfl

theorem Serves.setSlot (serves : store.Serves thread instantiation count) (place : Address)
    (value : Value) : (store.setSlot place value).Serves thread instantiation count := by
  rcases serves.usable with ⟨storage, found, size, ready⟩
  refine ⟨serves.awake, ?_⟩
  by_cases same : instantiation = place.instantiation
  · subst same
    refine ⟨{ storage with slots := storage.slots.setIfInBounds place.slot value }, ?_, ?_, ready⟩
    · rw [Store.setSlot, storage?_updateStorage, if_pos rfl, found]
      rfl
    · simpa using size
  · refine ⟨storage, ?_, size, ready⟩
    rw [Store.setSlot, storage?_updateStorage, if_neg same, found]

theorem Serves.slot? (serves : store.Serves thread instantiation count) {slot : Nat}
    (inside : slot < count) : ∃ value, store.slot? ⟨instantiation, slot⟩ = some value := by
  rcases serves.usable with ⟨storage, found, rfl, _⟩
  exact ⟨storage.slots[slot], by simp [Store.slot?, found, inside]⟩

end Store

/-! ### Resets -/

/-- Sets a field of an instantiation to what fresh storage holds. -/
def Store.resetField (module : Module) (instantiation : Instantiation) (store : Store)
    (id : FieldId) : Store :=
  match slotOf module id with
  | .ok slot => store.setSlot ⟨instantiation, slot⟩ (freshSlot module instantiation.arguments id)
  | .error _ => store

/-- Sets fields of an instantiation to what fresh storage holds. -/
def Store.reset (module : Module) (instantiation : Instantiation) (store : Store)
    (ids : List FieldId) : Store :=
  ids.foldl (resetField module instantiation) store

namespace Store

variable {thread : ThreadId} {store : Store} {instantiation : Instantiation} {count : Nat}
  {module : Module} {type : TypeDecl} {id : FieldId} {ids : List FieldId}

/-- A field with storage that its type lists. -/
structure Listed (module : Module) (owner : TypeId) (type : TypeDecl) (id : FieldId) : Prop where
  declared : module.type? owner = some type
  member : id ∈ type.fields
  field : ∃ field, module.field? id = some field ∧ field.hasStorage = true ∧ field.owner = owner

theorem Listed.slotOf {owner : TypeId} (listed : Listed module owner type id) :
    ∃ slot, slotOf module id = .ok slot ∧ type.fields[slot]? = some id := by
  rcases listed.field with ⟨field, found, _, owns⟩
  rcases exists_lastPosition listed.member with ⟨slot, position⟩
  refine ⟨slot, ?_, getElem?_of_lastPosition position⟩
  simp only [Store.slotOf, found, owns, listed.declared, position, Option.getD_some]

theorem Serves.resetField (serves : store.Serves thread instantiation count) (module : Module)
    (id : FieldId) : (store.resetField module instantiation id).Serves thread instantiation count := by
  unfold Store.resetField
  split
  · exact serves.setSlot _ _
  · exact serves

theorem slot?_resetField (serves : store.Serves thread instantiation type.fields.length)
    (listed : Listed module instantiation.type type id) (place : Address) :
    (store.resetField module instantiation id).slot? place =
      if place.instantiation = instantiation ∧ Store.slotOf module id = .ok place.slot then
        (freshStorage module type instantiation.arguments).slots[place.slot]?
      else store.slot? place := by
  rcases listed.slotOf with ⟨slot, slot_eq, position⟩
  have inside := (List.getElem?_eq_some_iff.mp position).1
  rcases serves.slot? inside with ⟨held, holds⟩
  rcases place with ⟨other, spot⟩
  simp only [Store.resetField, slot_eq, slot?_setSlot, Address.mk.injEq, Except.ok.injEq]
  by_cases hit : other = instantiation ∧ slot = spot
  · rcases hit with ⟨rfl, rfl⟩
    simp [holds, freshStorage, position]
  · rw [if_neg hit, if_neg]
    rintro ⟨same, rfl⟩
    exact hit ⟨same, rfl⟩

/-- The fields that were reset are fresh, and every other slot is what it was. -/
theorem slot?_reset (serves : store.Serves thread instantiation type.fields.length)
    (listed : ∀ id ∈ ids, Listed module instantiation.type type id) (place : Address) :
    (store.reset module instantiation ids).slot? place =
      if place.instantiation = instantiation ∧
          ∃ id ∈ ids, Store.slotOf module id = .ok place.slot then
        (freshStorage module type instantiation.arguments).slots[place.slot]?
      else store.slot? place := by
  induction ids generalizing store with
  | nil => simp [reset]
  | cons id ids ih =>
      have listedFirst := listed id List.mem_cons_self
      have later := ih (serves.resetField module id) fun other isLater =>
        listed other (List.mem_cons_of_mem _ isLater)
      rw [reset, List.foldl_cons, ← reset, later, slot?_resetField serves listedFirst]
      by_cases here : place.instantiation = instantiation
      · by_cases first : Store.slotOf module id = .ok place.slot
        · simp [here, first]
        · simp [here, first]
      · simp [here]

theorem modules_resetField (module : Module) (instantiation : Instantiation) (store : Store)
    (id : FieldId) : (store.resetField module instantiation id).modules = store.modules := by
  unfold resetField
  split <;> rfl

theorem modules_reset (module : Module) (instantiation : Instantiation) (store : Store)
    (ids : List FieldId) : (store.reset module instantiation ids).modules = store.modules := by
  induction ids generalizing store with
  | nil => rfl
  | cons id ids ih => exact (ih _).trans (modules_resetField module instantiation store id)

theorem Serves.reset (serves : store.Serves thread instantiation count) (module : Module)
    (ids : List FieldId) : (store.reset module instantiation ids).Serves thread instantiation count := by
  induction ids generalizing store with
  | nil => exact serves
  | cons id ids ih => exact ih (serves.resetField module id)

end Store

/-! ### The instructions -/

section Instructions

variable {limit : Nat} {thread : ThreadId} {store : Store} {frame : Frame}
  {below : List Activation} {rest : List Instruction} {handle : ModuleHandle} {module : Module}
  {type : TypeDecl} {owner : TypeId} {id : FieldId} {count : Nat}

/-- The instantiation that a frame belongs to. -/
def Frame.within (frame : Frame) (owner : TypeId) : Instantiation where
  module := frame.module
  type := owner
  arguments := frame.arguments

theorem address_ownField {slot arity : Nat} {field : FieldDecl}
    (loaded : store.module frame.module = .ok module) (found : module.field? id = some field)
    (placed : Store.slotOf module id = .ok slot) (arity_eq : arity = frame.arguments.length)
    (small : arity ≤ 65535) :
    frame.address store (ownField arity id) = .ok ⟨frame.within field.owner, slot⟩ := by
  simp only [Frame.address, loaded, ok_bind, ownField, found, placed,
    ownBinding_close arity_eq small]
  rfl

/-- The instructions that reset a field lead to where it is reset. -/
theorem reset_leads {arity : Nat} (limit : Nat) (below : List Activation)
    (ahead : frame.Ahead handle (resetOf module arity id ++ rest))
    (loaded : store.module handle = .ok module) (arity_eq : arity = frame.arguments.length)
    (small : arity ≤ 65535) (listed : Store.Listed module owner type id)
    (serves : store.Serves thread (frame.within owner) type.fields.length) :
    Leads limit thread store (.body frame :: below)
      (store.resetField module (frame.within owner) id) (.body (frame.moved 2 []) :: below) := by
  rcases listed.slotOf with ⟨slot, slot_eq, position⟩
  rcases listed.field with ⟨field, found, storage, owns⟩
  have inside := (List.getElem?_eq_some_iff.mp position).1
  rcases serves.slot? inside with ⟨held, holds⟩
  simp only [resetOf, found] at ahead
  rw [← ahead.module_eq] at loaded
  have addressed := address_ownField loaded found slot_eq arity_eq small
  rw [owns] at addressed
  have first : attempt limit thread store (.body frame :: below) =
      .running store (.body (frame.moved 1 [.address ⟨frame.within owner, slot⟩]) :: below) := by
    have current : frame.instruction? = some (.loadFieldAddress (ownField arity id)) :=
      ahead.instruction?
    have pushed : frame.yield (.address ⟨frame.within owner, slot⟩) =
        .ok (frame.moved 1 [.address ⟨frame.within owner, slot⟩]) := by
      rw [← ahead.moved_zero]
      rfl
    simp only [attempt, current, stepBody, accessField, addressed, acquire, serves.ask, pushed]
    rfl
  have second : attempt limit thread store
      (.body (frame.moved 1 [.address ⟨frame.within owner, slot⟩]) :: below) =
      .running (store.resetField module (frame.within owner) id)
        (.body (frame.moved 2 []) :: below) := by
    have current : (frame.moved 1 [.address ⟨frame.within owner, slot⟩]).instruction? =
        some (.storeDefault field.type) := ahead.instruction?_moved 1 _
    have written : store.write ⟨frame.within owner, slot⟩
        (.default (field.type.substitute frame.arguments)) =
        .ok (store.resetField module (frame.within owner) id) := by
      simp only [Store.write, holds, Store.resetField, slot_eq, Store.freshSlot, found, storage]
      rfl
    have popped : (frame.moved 1 [.address ⟨frame.within owner, slot⟩]).popAddress "initobj" =
        .ok (⟨frame.within owner, slot⟩, frame.moved 1 []) := rfl
    have arguments_eq : (frame.moved 1 []).arguments = frame.arguments := rfl
    simp only [attempt, current, stepBody, Frame.execute, popped, ok_bind, arguments_eq, written]
    rfl
  exact .step (step_of_running first) (.of_running second)

/-- The instructions that reset some fields lead past them, to where the fields are reset. -/
theorem resets_lead {arity : Nat} {ids : List FieldId} (limit : Nat) (below : List Activation)
    (ahead : frame.Ahead handle ((ids.map (resetOf module arity)).flatten ++ rest))
    (loaded : store.module handle = .ok module) (arity_eq : arity = frame.arguments.length)
    (small : arity ≤ 65535) (listed : ∀ id ∈ ids, Store.Listed module owner type id)
    (serves : store.Serves thread (frame.within owner) type.fields.length) :
    Leads limit thread store (.body frame :: below)
      (store.reset module (frame.within owner) ids)
      (.body (frame.moved (2 * ids.length) []) :: below) ∧
      (frame.moved (2 * ids.length) []).Ahead handle rest := by
  induction ids generalizing store frame with
  | nil =>
      rw [List.length_nil, ahead.moved_zero]
      exact ⟨.refl, ahead⟩
  | cons id ids ih =>
      rw [List.map_cons, List.flatten_cons, List.append_assoc] at ahead
      have listedFirst := listed id List.mem_cons_self
      have first := reset_leads limit below ahead loaded arity_eq small listedFirst serves
      have aheadLater : (frame.moved 2 []).Ahead handle
          ((ids.map (resetOf module arity)).flatten ++ rest) := by
        rcases listedFirst.field with ⟨field, found, _, _⟩
        simpa [resetOf, found] using ahead.moved 2
      have loadedLater : (store.resetField module (frame.within owner) id).module handle =
          .ok module := by
        simpa only [Store.module, Store.modules_resetField] using loaded
      have later := ih aheadLater loadedLater arity_eq
        (fun other isLater => listed other (List.mem_cons_of_mem _ isLater))
        (serves.resetField module id)
      rw [Frame.moved_moved, Nat.add_comm, ← Nat.mul_succ] at later
      exact ⟨first.trans later.1, later.2⟩

end Instructions

end Rekindle.Machine
