import Rekindle.Proofs.Registration.Calling
import Rekindle.Proofs.Transparency.Lookups

/-!
# Alike stores

The stores of two machines of which one runs a module and the other its woven form. They hold alike
values in the same places, and the initialization of each type has come equally far. Only the
dispatcher type is in the second store alone; between the steps of the module itself it is either
untouched or initialized, and its slots can be added to.
-/

namespace Rekindle.Machine

open Fallible Reload Validity

/-- The type of a slot is untouched, or it is initialized and the slot holds what can be added to. -/
def Site.Primed (site : Site) (store : Store) : Prop :=
  ∀ storage, store.storage? site.slot.instantiation = some storage →
    storage.status = .done ∧
      ∃ value, storage.slots[site.slot.slot]? = some value ∧ value.IsCombinable

/-- Equal progress of the initialization of a type, on one thread. -/
inductive Status.Alike (module : Module) (names : List Nat) (thread : ThreadId) :
    Status Trap → Status Trap → Prop where
  | pending : Alike module names thread .pending .pending
  | running : Alike module names thread (.running thread) (.running thread)
  | done : Alike module names thread .done .done
  | failed {left right : Trap} (causes : left.Alike module names right) :
      Alike module names thread (.failed left) (.failed right)

/-- What a thread that waits for no other is told. -/
inductive Ticket.Alike (module : Module) (names : List Nat) : Ticket Trap → Ticket Trap → Prop where
  | run : Alike module names .run .run
  | ready : Alike module names .ready .ready
  | failed {left right : Trap} (causes : left.Alike module names right) :
      Alike module names (.failed left) (.failed right)

structure Storage.Alike (module : Module) (names : List Nat) (thread : ThreadId)
    (left right : Storage) : Prop where
  slots : Values module names left.slots right.slots
  status : left.status.Alike module names thread right.status

namespace Weave

variable (weave : Weave)

/-- A store in which the dispatcher can be used, with the woven module alone. -/
structure Prepared (store : Store) : Prop where
  modules_eq : store.modules = #[weave.woven]
  primed : ∀ site ∈ weave.sites, site.Primed store

/-- The store of a machine with the module and that of one with its woven form. -/
structure Stores (thread : ThreadId) (names : List Nat) (plain woven : Store) : Prop where
  modules_eq : plain.modules = #[weave.module]
  prepared : weave.Prepared woven
  count : names.length = plain.nextCallback
  distinct : names.Nodup
  earlier : ∀ name ∈ names, name < woven.nextCallback
  storages : ∀ instantiation, instantiation.type ≠ weave.dispatcher.type →
    Option.Rel (Storage.Alike weave.module names thread) (plain.storage? instantiation)
      (woven.storage? instantiation)

/-- What a store becomes when the dispatcher is used. -/
structure Aside (store after : Store) : Prop where
  prepared : weave.Prepared after
  nextCallback_le : store.nextCallback ≤ after.nextCallback
  storages : ∀ instantiation, instantiation.type ≠ weave.dispatcher.type →
    after.storage? instantiation = store.storage? instantiation

end Weave

variable {weave : Weave} {thread : ThreadId} {names : List Nat} {plain woven : Store}
  {instantiation : Instantiation}

/-! ### Growing lists of names -/

section Names

variable {module : Module} {more : List Nat}

theorem Status.Alike.mono {left right : Status Trap} (grown : names <+: more)
    (alike : left.Alike module names thread right) : left.Alike module more thread right := by
  cases alike with
  | pending => exact .pending
  | running => exact .running
  | done => exact .done
  | failed causes => exact .failed (causes.mono grown)

theorem Status.Alike.ticket {left right : Status Trap}
    (alike : left.Alike module names thread right) (waits other : Waits Instantiation)
    (key : Instantiation) :
    (left.ask waits thread key).1.Alike module names (right.ask other thread key).1 := by
  cases alike with
  | pending => exact .run
  | running =>
      simp only [Status.ask, true_or, if_true]
      exact .ready
  | done => exact .ready
  | failed causes => exact .failed causes

theorem Status.Alike.ask {left right : Status Trap}
    (alike : left.Alike module names thread right) (waits other : Waits Instantiation)
    (key : Instantiation) :
    (left.ask waits thread key).2.1.Alike module names thread (right.ask other thread key).2.1 := by
  cases alike with
  | pending => exact .running
  | running =>
      simp only [Status.ask, true_or, if_true]
      exact .running
  | done => exact .done
  | failed causes => exact .failed causes

theorem Status.Alike.isActive {left right : Status Trap}
    (alike : left.Alike module names thread right) (waits : Waits Instantiation)
    (key : Instantiation)
    (goesOn : (right.ask waits thread key).1 = .run ∨ (right.ask waits thread key).1 = .ready) :
    (right.ask waits thread key).2.1.IsActive thread := by
  cases alike with
  | pending => rfl
  | running =>
      simp only [Status.ask, true_or, if_true]
      rfl
  | done => trivial
  | failed causes => rcases goesOn with told | told <;> cases told

theorem Storage.Alike.mono {left right : Storage} (grown : names <+: more)
    (alike : left.Alike module names thread right) : left.Alike module more thread right :=
  ⟨alike.slots.mono grown, alike.status.mono grown⟩

end Names

namespace Weave

/-! ### The use of the dispatcher -/

theorem Prepared.rests {after : Store} (prepared : weave.Prepared woven)
    (rests : woven.Rests after) : weave.Prepared after := by
  refine ⟨rests.modules_eq.trans prepared.modules_eq, ?_⟩
  intro site listed storage present
  rw [rests.storages] at present
  exact prepared.primed site listed storage present

theorem Aside.of_rests {after : Store} (prepared : weave.Prepared woven)
    (rests : woven.Rests after) : weave.Aside woven after :=
  ⟨prepared.rests rests, Nat.le_of_eq rests.nextCallback_eq.symm, fun _ _ => rests.storages _⟩

theorem Aside.refl (prepared : weave.Prepared woven) : weave.Aside woven woven :=
  ⟨prepared, Nat.le_refl _, fun _ _ => rfl⟩

theorem Aside.trans {middle after : Store} (first : weave.Aside woven middle)
    (second : weave.Aside middle after) : weave.Aside woven after := by
  refine ⟨second.prepared, Nat.le_trans first.nextCallback_le second.nextCallback_le, ?_⟩
  intro instantiation apart
  rw [second.storages instantiation apart, first.storages instantiation apart]

theorem Stores.aside {after : Store} (stores : weave.Stores thread names plain woven)
    (aside : weave.Aside woven after) : weave.Stores thread names plain after := by
  refine ⟨stores.modules_eq, aside.prepared, stores.count, stores.distinct, ?_, ?_⟩
  · intro name listed
    exact Nat.lt_of_lt_of_le (stores.earlier name listed) aside.nextCallback_le
  · intro instantiation apart
    rw [aside.storages instantiation apart]
    exact stores.storages instantiation apart

/-! ### The use of a type of the module -/

/-- What happens to the storage of one instantiation of the module on both sides. -/
theorem Stores.change {plainAfter wovenAfter : Store}
    (stores : weave.Stores thread names plain woven) (placed : instantiation.Placed weave.module)
    (plain_modules : plainAfter.modules = plain.modules)
    (woven_modules : wovenAfter.modules = woven.modules)
    (plain_next : plainAfter.nextCallback = plain.nextCallback)
    (woven_next : wovenAfter.nextCallback = woven.nextCallback)
    (plain_others : ∀ other, other ≠ instantiation →
      plainAfter.storage? other = plain.storage? other)
    (woven_others : ∀ other, other ≠ instantiation →
      wovenAfter.storage? other = woven.storage? other)
    (changed : Option.Rel (Storage.Alike weave.module names thread)
      (plainAfter.storage? instantiation) (wovenAfter.storage? instantiation)) :
    weave.Stores thread names plainAfter wovenAfter := by
  refine ⟨plain_modules.trans stores.modules_eq,
    ⟨woven_modules.trans stores.prepared.modules_eq, ?_⟩, ?_, stores.distinct, ?_, ?_⟩
  · intro site listed storage present
    rw [woven_others] at present
    · exact stores.prepared.primed site listed storage present
    · intro same
      apply placed.ne_dispatcher
      rw [← same, instantiation_of_mem_sites listed]
      rfl
  · rw [plain_next]
    exact stores.count
  · rw [woven_next]
    exact stores.earlier
  · intro other apart
    by_cases same : other = instantiation
    · rw [same]
      exact changed
    · rw [plain_others other same, woven_others other same]
      exact stores.storages other apart

theorem Stores.slot?_of_ne (stores : weave.Stores thread names plain woven) {place : Address}
    (apart : place.instantiation.type ≠ weave.dispatcher.type) :
    Option.Rel (Value.Alike weave.module names) (plain.slot? place) (woven.slot? place) := by
  apply rel_bind (stores.storages place.instantiation apart)
  intro storage other storages
  exact storages.slots.getElem? place.slot

theorem Stores.slot? (stores : weave.Stores thread names plain woven) {place : Address}
    (placed : place.instantiation.Placed weave.module) :
    Option.Rel (Value.Alike weave.module names) (plain.slot? place) (woven.slot? place) :=
  stores.slot?_of_ne placed.ne_dispatcher

theorem Stores.setSlot (stores : weave.Stores thread names plain woven) {place : Address}
    (placed : place.instantiation.Placed weave.module) {left right : Value}
    (values : left.Alike weave.module names right) :
    weave.Stores thread names (plain.setSlot place left) (woven.setSlot place right) := by
  refine stores.change placed rfl rfl rfl rfl ?_ ?_ ?_
  · intro other apart
    rw [Store.setSlot, Store.storage?_updateStorage, if_neg apart]
  · intro other apart
    rw [Store.setSlot, Store.storage?_updateStorage, if_neg apart]
  · rw [Store.setSlot, Store.setSlot, Store.storage?_updateStorage, Store.storage?_updateStorage,
      if_pos rfl, if_pos rfl]
    apply rel_map (stores.storages place.instantiation placed.ne_dispatcher)
    intro storage other storages
    exact ⟨storages.slots.set values place.slot, storages.status⟩

theorem Stores.read (stores : weave.Stores thread names plain woven) {place : Address}
    (placed : place.instantiation.Placed weave.module) :
    Mirrored weave.module names (Value.Alike weave.module names) (plain.read place)
      (woven.read place) := by
  rcases rel_cases (stores.slot? placed) with
    ⟨missing, otherMissing⟩ | ⟨value, other, found, otherFound, values⟩
  · simp only [Store.read, missing, otherMissing]
    exact .error (.same rfl)
  · simp only [Store.read, found, otherFound]
    exact .ok values

theorem Stores.write (stores : weave.Stores thread names plain woven) {place : Address}
    (placed : place.instantiation.Placed weave.module) {left right : Value}
    (values : left.Alike weave.module names right) :
    Mirrored weave.module names (weave.Stores thread names) (plain.write place left)
      (woven.write place right) := by
  rcases rel_cases (stores.slot? placed) with
    ⟨missing, otherMissing⟩ | ⟨value, other, found, otherFound, _⟩
  · simp only [Store.write, missing, otherMissing]
    exact .error (.same rfl)
  · simp only [Store.write, found, otherFound]
    exact .ok (stores.setSlot placed values)

theorem Stores.publish (stores : weave.Stores thread names plain woven)
    (placed : instantiation.Placed weave.module) {left right : Except Trap Unit}
    (outcomes : (Status.ofOutcome left).Alike weave.module names thread (Status.ofOutcome right)) :
    weave.Stores thread names (plain.publish instantiation left)
      (woven.publish instantiation right) := by
  refine stores.change placed rfl rfl rfl rfl ?_ ?_ ?_
  · intro other apart
    rw [Store.storage?_publish, if_neg apart]
  · intro other apart
    rw [Store.storage?_publish, if_neg apart]
  · rw [Store.storage?_publish, Store.storage?_publish, if_pos rfl, if_pos rfl]
    apply rel_map (stores.storages instantiation placed.ne_dispatcher)
    intro storage other storages
    exact ⟨storages.slots, outcomes⟩

/-! ### Asking -/

theorem Stores.loaded (stores : weave.Stores thread names plain woven) {handle : ModuleHandle}
    (first : handle = firstModule) : plain.modules[handle.position]? = some weave.module := by
  simp [stores.modules_eq, first, firstModule]

theorem Prepared.loaded (prepared : weave.Prepared woven) {handle : ModuleHandle}
    (first : handle = firstModule) : woven.modules[handle.position]? = some weave.woven := by
  simp [prepared.modules_eq, first, firstModule]

theorem Stores.module_eq (stores : weave.Stores thread names plain woven) {handle : ModuleHandle}
    (first : handle = firstModule) : plain.module handle = .ok weave.module := by
  simp [Store.module, stores.loaded first]

theorem Prepared.module_eq (prepared : weave.Prepared woven) {handle : ModuleHandle}
    (first : handle = firstModule) : woven.module handle = .ok weave.woven := by
  simp [Store.module, prepared.loaded first]

theorem Stores.typeName_eq (stores : weave.Stores thread names plain woven)
    (placed : instantiation.Placed weave.module) :
    woven.typeName instantiation = plain.typeName instantiation := by
  rcases placed.declared with ⟨type, declared, _⟩
  simp [Store.typeName, stores.loaded placed.module_eq, stores.prepared.loaded placed.module_eq,
    fullName_eq declared]

/-- The storages that two machines ask about are alike, whether they were there or are fresh. -/
theorem Stores.asked (stores : weave.Stores thread names plain woven)
    (placed : instantiation.Placed weave.module) {plainAfter wovenAfter : Store}
    {ticket other : Ticket Trap} {storage counterpart : Storage}
    (asks : Store.Asked plain thread instantiation plainAfter ticket storage)
    (asksToo : Store.Asked woven thread instantiation wovenAfter other counterpart) :
    storage.Alike weave.module names thread counterpart := by
  have related := stores.storages instantiation placed.ne_dispatcher
  rcases asks.storage_eq with present | ⟨missing, module, type, loaded, declared, rfl⟩
  · rcases asksToo.storage_eq with otherPresent | ⟨otherMissing, _⟩
    · rw [present, otherPresent] at related
      cases related with
      | some storages => exact storages
    · rw [present, otherMissing] at related
      cases related
  · rcases asksToo.storage_eq with otherPresent | ⟨_, otherModule, otherType, otherLoaded, kept, rfl⟩
    · rw [missing, otherPresent] at related
      cases related
    · rw [stores.loaded placed.module_eq] at loaded
      rw [stores.prepared.loaded placed.module_eq] at otherLoaded
      cases loaded
      cases otherLoaded
      rcases type_kept declared with ⟨routines, same⟩
      rw [same] at kept
      cases kept
      rw [freshStorage_eq declared]
      exact ⟨freshStorage_alike names type _, .pending⟩

/-- Both machines are told the same, and unless the initialization has failed, the type can be used
or is initialized next. -/
theorem Stores.ask (stores : weave.Stores thread names plain woven)
    (placed : instantiation.Placed weave.module) :
    ∃ plainAfter wovenAfter ticket other,
      plain.ask thread instantiation = .ok (plainAfter, ticket) ∧
      woven.ask thread instantiation = .ok (wovenAfter, other) ∧
      weave.Stores thread names plainAfter wovenAfter ∧
      ticket.Alike weave.module names other ∧
      (other = .run ∨ other = .ready → wovenAfter.IsActive thread instantiation) := by
  rcases placed.declared with ⟨type, declared, _⟩
  rcases type_kept declared with ⟨routines, kept⟩
  have loaded := stores.loaded placed.module_eq
  have otherLoaded := stores.prepared.loaded placed.module_eq
  rcases Store.ask_succeeds thread loaded declared with ⟨plainAfter, ticket, asks⟩
  rcases Store.ask_succeeds thread otherLoaded kept with ⟨wovenAfter, other, asksToo⟩
  rcases Store.ask_ok asks with ⟨storage, asked⟩
  rcases Store.ask_ok asksToo with ⟨counterpart, askedToo⟩
  have storages := stores.asked placed asked askedToo
  have here := asked.storage?_eq instantiation
  have there := askedToo.storage?_eq instantiation
  rw [if_pos rfl] at here there
  refine ⟨plainAfter, wovenAfter, ticket, other, asks, asksToo, ?_, ?_, ?_⟩
  · refine stores.change placed asked.modules_eq askedToo.modules_eq asked.nextCallback_eq
      askedToo.nextCallback_eq ?_ ?_ ?_
    · intro another apart
      rw [asked.storage?_eq, if_neg apart]
    · intro another apart
      rw [askedToo.storage?_eq, if_neg apart]
    · rw [here, there]
      exact .some ⟨storages.slots, storages.status.ask _ _ _⟩
  · rw [asked.ticket_eq, askedToo.ticket_eq]
    exact storages.status.ticket _ _ _
  · intro goesOn
    refine ⟨_, there, ?_⟩
    rw [askedToo.ticket_eq] at goesOn
    exact storages.status.isActive _ _ goesOn

/-! ### New callbacks -/

/-- Both machines give out their next identity, one for the other. -/
theorem Stores.issue (stores : weave.Stores thread names plain woven) :
    weave.Stores thread (names ++ [woven.nextCallback])
      { plain with nextCallback := plain.nextCallback + 1 }
      { woven with nextCallback := woven.nextCallback + 1 } := by
  have prepared := stores.prepared
  refine ⟨stores.modules_eq, ⟨prepared.modules_eq, prepared.primed⟩, ?_, ?_, ?_, ?_⟩
  · simp [stores.count]
  · rw [List.nodup_append]
    refine ⟨stores.distinct, List.nodup_singleton _, ?_⟩
    intro name listed other isNext same
    have below := stores.earlier name listed
    rw [List.mem_singleton.mp isNext] at same
    omega
  · intro name listed
    show name < woven.nextCallback + 1
    rcases List.mem_append.mp listed with early | last
    · have below := stores.earlier name early
      omega
    · rw [List.mem_singleton.mp last]
      omega
  · intro instantiation apart
    rcases rel_cases (stores.storages instantiation apart) with
      ⟨missing, otherMissing⟩ | ⟨storage, other, found, otherFound, storages⟩
    · show Option.Rel _ (plain.storage? instantiation) (woven.storage? instantiation)
      rw [missing, otherMissing]
      exact .none
    · show Option.Rel _ (plain.storage? instantiation) (woven.storage? instantiation)
      rw [found, otherFound]
      exact .some (storages.mono (List.prefix_append _ _))

theorem Stores.named (stores : weave.Stores thread names plain woven) :
    (names ++ [woven.nextCallback])[plain.nextCallback]? = some woven.nextCallback := by
  rw [← stores.count]
  simp

theorem Stores.newCallback (stores : weave.Stores thread names plain woven)
    {targets : List BoundRoutine} (known : ∀ target ∈ targets, target.Known weave.module) :
    weave.Stores thread (names ++ [woven.nextCallback]) (plain.newCallback targets).1
        (woven.newCallback targets).1 ∧
      (plain.newCallback targets).2.Alike weave.module (names ++ [woven.nextCallback])
        (woven.newCallback targets).2 :=
  ⟨stores.issue, .callback ⟨stores.named, rfl, known⟩⟩

theorem Stores.combine (stores : weave.Stores thread names plain woven)
    {left right other another : Value} (first : left.Alike weave.module names right)
    (second : other.Alike weave.module names another) :
    Option.Rel (fun one counterpart =>
        weave.Stores thread (names ++ [woven.nextCallback]) one.1 counterpart.1 ∧
          one.2.Alike weave.module (names ++ [woven.nextCallback]) counterpart.2)
      (plain.combine left other) (woven.combine right another) := by
  have grown : names <+: names ++ [woven.nextCallback] := List.prefix_append _ _
  apply rel_map (Value.Alike.combine stores.named (first.mono grown) (second.mono grown))
  intro combined other values
  exact ⟨stores.issue, values⟩

end Weave

end Rekindle.Machine
