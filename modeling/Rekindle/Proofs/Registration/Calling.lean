import Rekindle.Proofs.Machine.Active
import Rekindle.Proofs.Machine.Tracing
import Rekindle.Proofs.Registration.Move

/-!
# Calling a registrar

Where nobody interferes, the routine that adds to a slot of the dispatcher goes straight through its
body: the exchange succeeds at the first try. It initializes the dispatcher type if it is the first
to use it, and touches nothing else.
-/

namespace Rekindle.Machine

open Fallible Reload

/-- A value that callbacks can be added to. -/
def Value.IsCombinable : Value → Prop
  | .null | .callback _ => True
  | _ => False

variable {Event : Type} {see : List Activation → List Event} {site : Site} {limit : Nat}
  {thread : ThreadId} {store after : Store} {argument value : Value} {below : List Activation}
  {base : Storage}

theorem Value.IsCombinable.same_self (combinable : value.IsCombinable) :
    value.same value = true := by
  cases value with
  | null => rfl
  | callback object => simp [Value.same]
  | _ => cases combinable

theorem Value.IsCombinable.combine (combinable : value.IsCombinable)
    (other : argument.IsCombinable) (fresh : Nat) :
    ∃ combined, Value.combine fresh value argument = some combined ∧ combined.IsCombinable := by
  cases value with
  | null | callback =>
      cases argument with
      | null | callback => exact ⟨_, rfl, trivial⟩
      | _ => cases other
  | _ => cases combinable

namespace Site

/-- The type of the slot is not in use yet, or a thread can use it and add to the slot. -/
structure Usable (site : Site) (thread : ThreadId) (store : Store) : Prop where
  loaded : store.modules[site.handle.position]? = some site.module
  active : ∀ storage, store.storage? site.slot.instantiation = some storage →
    storage.status.IsActive thread ∧
      ∃ value, storage.slots[site.slot.slot]? = some value ∧ value.IsCombinable

/-- The type of the slot is in use, and the slot holds a value. -/
structure Holds (site : Site) (thread : ThreadId) (store : Store) (base : Storage)
    (value : Value) : Prop where
  loaded : store.modules[site.handle.position]? = some site.module
  present : store.storage? site.slot.instantiation = some base
  active : base.status.IsActive thread
  held : base.slots[site.slot.slot]? = some value

/-- The storage of the type of the slot when it is in use: what is there, or what is fresh. -/
inductive Based (site : Site) (store : Store) : Storage → Prop where
  | present {storage : Storage}
      (found : store.storage? site.slot.instantiation = some storage) : Based site store storage
  | fresh {type : TypeDecl} (missing : store.storage? site.slot.instantiation = none)
      (declared : site.module.type? site.owner = some type) :
      Based site store { Store.freshStorage site.module type [] with status := .done }

/-- A store in which the type of the slot was used. -/
structure Beside (site : Site) (store after : Store) : Prop where
  modules_eq : after.modules = store.modules
  nextCallback_le : store.nextCallback ≤ after.nextCallback
  storages : ∀ other, other ≠ site.slot.instantiation →
    after.storage? other = store.storage? other

/-- A store in which the targets of a value were added to those in the slot. -/
structure Registered (site : Site) (store : Store) (argument : Value) (after : Store) : Prop where
  beside : site.Beside store after
  added : ∃ base value combined, site.Based store base ∧
    base.slots[site.slot.slot]? = some value ∧ combined.IsCombinable ∧
    combined.targets = value.targets ++ argument.targets ∧
    after.storage? site.slot.instantiation =
      some { base with slots := base.slots.setIfInBounds site.slot.slot combined }

theorem Beside.trans {middle : Store} (first : site.Beside store middle)
    (second : site.Beside middle after) : site.Beside store after := by
  refine ⟨second.modules_eq.trans first.modules_eq,
    Nat.le_trans first.nextCallback_le second.nextCallback_le, ?_⟩
  intro other apart
  rw [second.storages other apart, first.storages other apart]

theorem beside_of_rests (rests : store.Rests after) : site.Beside store after :=
  ⟨rests.modules_eq, Nat.le_of_eq rests.nextCallback_eq.symm, fun other _ => rests.storages other⟩

namespace Holds

theorem isActive (holds : site.Holds thread store base value) :
    store.IsActive thread site.slot.instantiation :=
  ⟨base, holds.present, holds.active⟩

theorem rests (holds : site.Holds thread store base value) (rests : store.Rests after) :
    site.Holds thread after base value := by
  refine ⟨?_, (rests.storages _).trans holds.present, holds.active, holds.held⟩
  rw [rests.modules_eq]
  exact holds.loaded

theorem slot?_eq (holds : site.Holds thread store base value) :
    store.slot? site.slot = some value := by
  simp [Store.slot?, holds.present, holds.held]

end Holds

/-! ### The dispatcher type -/

/-- Whoever asks for the dispatcher type before it is in use initializes it, in one step. -/
theorem initializes (thread : ThreadId)
    (loaded : store.modules[site.handle.position]? = some site.module)
    (missing : store.storage? site.slot.instantiation = none) :
    ∃ asked after base value, store.ask thread site.slot.instantiation = .ok (asked, .run) ∧
      asked.modules[site.handle.position]? = some site.module ∧
      after = asked.publish site.slot.instantiation (.ok ()) ∧ site.Beside store after ∧
      site.Based store base ∧ site.Holds thread after base value ∧ value.IsCombinable := by
  rcases site.registers.field_listed with ⟨type, declared, _⟩
  have found : store.modules[site.slot.instantiation.module.position]? = some site.module := loaded
  rcases Store.ask_succeeds thread found declared with ⟨asked, ticket, asks⟩
  rcases Store.ask_ok asks with ⟨storage, told⟩
  have fresh : storage = Store.freshStorage site.module type [] := by
    rcases told.storage_eq with present | ⟨_, module, other, otherLoaded, otherFound, fresh⟩
    · rw [missing] at present
      cases present
    · rw [found] at otherLoaded
      cases otherLoaded
      have same := declared.symm.trans otherFound
      cases same
      exact fresh
  have ticket_eq : ticket = .run := by
    rw [told.ticket_eq, fresh]
    rfl
  subst ticket_eq
  have here := told.storage?_eq site.slot.instantiation
  rw [if_pos rfl] at here
  have askedLoaded : asked.modules[site.handle.position]? = some site.module := by
    rw [told.modules_eq]
    exact loaded
  refine ⟨asked, _, _, .null, asks, askedLoaded, rfl, ⟨told.modules_eq, ?_, ?_⟩,
    .fresh missing declared, ⟨askedLoaded, ?_, trivial, fresh_slot declared⟩, trivial⟩
  · exact Nat.le_of_eq told.nextCallback_eq.symm
  · intro other apart
    rw [Store.storage?_publish, if_neg apart, told.storage?_eq, if_neg apart]
  · rw [Store.storage?_publish, if_pos rfl, here, fresh]
    rfl

/-- Before a routine of the dispatcher is entered, the dispatcher type is in use. -/
theorem Usable.holds (usable : site.Usable thread store) (sees : SeesReturns see) (limit : Nat)
    (argument : Value) (below : List Activation) :
    ∃ ready base value, Traces see limit thread store (.call site.target [argument] :: below) []
        ready (.call site.target [argument] :: below) ∧ site.Beside store ready ∧
      site.Based store base ∧ site.Holds thread ready base value ∧ value.IsCombinable := by
  rcases found : store.storage? site.slot.instantiation with _ | storage
  · rcases initializes thread usable.loaded found with
      ⟨asked, ready, base, value, asks, loaded, published, beside, based, holds, combinable⟩
    refine ⟨ready, base, value, ?_, beside, based, holds, combinable⟩
    have starts : attempt limit thread store (.call site.target [argument] :: below) =
        .running asked (.initializer site.slot.instantiation ::
          .call site.target [argument] :: below) := by
      rw [attempt, call_eq (ownerOf_eq usable.loaded)]
      simp only [acquire, asks, startInitializer, initializerOf_eq_none loaded]
    have ends : attempt limit thread asked (.initializer site.slot.instantiation ::
        .call site.target [argument] :: below) =
        .running ready (.call site.target [argument] :: below) := by
      rw [published]
      rfl
    exact .quiet (sees.other _ _ rfl) starts (.of_quiet (sees.other _ _ rfl) ends)
  · rcases usable.active storage found with ⟨active, value, held, combinable⟩
    exact ⟨store, storage, value, .refl, ⟨rfl, Nat.le_refl _, fun _ _ => rfl⟩, .present found,
      ⟨usable.loaded, found, active, held⟩, combinable⟩

theorem Holds.calls (holds : site.Holds thread store base value) (limit : Nat) (argument : Value)
    (below : List Activation) : ∃ after, store.Rests after ∧
      attempt limit thread store (.call site.target [argument] :: below) =
        entering limit after site.target [argument] below := by
  have active : store.IsActive thread site.slot.instantiation := holds.isActive
  rcases active.acquire limit with ⟨after, rests, acquires⟩
  refine ⟨after, rests, ?_⟩
  rw [attempt, call_eq (ownerOf_eq holds.loaded), acquires]

/-- Where the limit is never met, a routine of the dispatcher can be entered. -/
theorem Usable.enough (usable : site.Usable thread store) (sees : SeesReturns see)
    (shallow : Shallow limit thread store (.call site.target [argument] :: below)) :
    ¬limit < depth below + 1 := by
  rcases usable.holds sees limit argument below with ⟨ready, base, value, toReady, _, _, holds, _⟩
  rcases holds.calls limit argument below with ⟨entered, _, attempted⟩
  exact (shallow.leads toReady.leads).enough attempted

/-! ### Instructions -/

section Instructions

variable (site) (limit thread argument below)
variable (sees : SeesReturns see)
include sees

theorem takes (store : Store) (value a b c : Value) :
    Traces see limit thread store (.body (site.frame argument 1 a b c [value]) :: below) []
      store (.body (site.frame argument 6 value value c [argument, value]) :: below) :=
  .quiet (sees.body _ _ rfl) rfl (.quiet (sees.body _ _ rfl) rfl (.quiet (sees.body _ _ rfl) rfl
    (.quiet (sees.body _ _ rfl) rfl (.of_quiet (sees.body _ _ rfl) rfl))))

theorem enters (holds : site.Holds thread store base value) (enough : ¬limit < depth below + 1) :
    ∃ after, store.Rests after ∧
      Traces see limit thread store (.call site.target [argument] :: below) []
        after (.body (site.frame argument 0 .null .null .null []) :: below) := by
  rcases holds.calls limit argument below with ⟨after, rests, attempted⟩
  refine ⟨after, rests, .of_quiet (sees.other _ _ rfl) ?_⟩
  rw [attempted, entering, enter_eq (holds.rests rests).loaded enough]

theorem reads (holds : site.Holds thread store base value) (a b c : Value) :
    ∃ after, store.Rests after ∧
      Traces see limit thread store (.body (site.frame argument 0 a b c []) :: below) []
        after (.body (site.frame argument 1 a b c [value]) :: below) := by
  have active : store.IsActive thread site.slot.instantiation := holds.isActive
  rcases active.acquire limit with ⟨after, rests, acquires⟩
  have place : (site.frame argument 0 a b c []).address store site.reference = .ok site.slot :=
    address_eq holds.loaded
  have unfolded : attempt limit thread store (.body (site.frame argument 0 a b c []) :: below) =
      accessField limit thread store (site.frame argument 0 a b c []) below site.reference
        fun store address => do
          let value ← store.read address
          return (store, ← (site.frame argument 0 a b c []).yield value) := rfl
  have reading : after.read site.slot = .ok value := by
    simp [Store.read, (holds.rests rests).slot?_eq]
  refine ⟨after, rests, .of_quiet (sees.body _ _ rfl) ?_⟩
  rw [unfolded, accessField, place]
  simp only [acquires, reading]
  rfl

theorem combines (store : Store) (combinable : value.IsCombinable)
    (other : argument.IsCombinable) (a b c : Value) :
    ∃ combined : Value, combined.IsCombinable ∧
      combined.targets = value.targets ++ argument.targets ∧
      Traces see limit thread store (.body (site.frame argument 6 a b c [argument, value]) :: below)
        [] { store with nextCallback := store.nextCallback + 1 }
        (.body (site.frame argument 7 a b c [combined]) :: below) := by
  rcases combinable.combine other store.nextCallback with ⟨combined, made, stays⟩
  refine ⟨combined, stays, Value.targets_combine made, .of_quiet (sees.body _ _ rfl) ?_⟩
  have unfolded : attempt limit thread store
      (.body (site.frame argument 6 a b c [argument, value]) :: below) =
      proceedWith store (site.frame argument 6 a b c [argument, value]) below
        ((site.frame argument 6 a b c [argument, value]).combineCallbacks store) := rfl
  have executed : (site.frame argument 6 a b c [argument, value]).combineCallbacks store =
      .ok ({ store with nextCallback := store.nextCallback + 1 },
        site.frame argument 7 a b c [combined]) := by
    have popped : (site.frame argument 6 a b c [argument, value]).popTwo =
        .ok (value, argument, site.frame argument 6 a b c []) := rfl
    simp only [Frame.combineCallbacks, popped, ok_bind, Store.combine, made, Option.map_some]
    rfl
  rw [unfolded, executed]
  rfl

theorem addresses (holds : site.Holds thread store base value) (a b c : Value) :
    ∃ after, store.Rests after ∧
      Traces see limit thread store (.body (site.frame argument 8 a b c []) :: below) []
        after (.body (site.frame argument 9 a b c [.address site.slot]) :: below) := by
  have active : store.IsActive thread site.slot.instantiation := holds.isActive
  rcases active.acquire limit with ⟨after, rests, acquires⟩
  have place : (site.frame argument 8 a b c []).address store site.reference = .ok site.slot :=
    address_eq holds.loaded
  have unfolded : attempt limit thread store (.body (site.frame argument 8 a b c []) :: below) =
      accessField limit thread store (site.frame argument 8 a b c []) below site.reference
        fun store address => do
          return (store, ← (site.frame argument 8 a b c []).yield (.address address)) := rfl
  refine ⟨after, rests, .of_quiet (sees.body _ _ rfl) ?_⟩
  rw [unfolded, accessField, place]
  simp only [acquires]
  rfl

theorem exchanges {expected : Value} (holds : site.Holds thread store base value)
    (unchanged : value.same expected = true) (a b d : Value) :
    Traces see limit thread store
      (.body (site.frame argument 11 a b d [expected, d, .address site.slot]) :: below) []
      (store.setSlot site.slot d)
      (.body (site.frame argument 12 a b d [value]) :: below) := by
  refine .of_quiet (sees.body _ _ rfl) ?_
  have unfolded : attempt limit thread store
      (.body (site.frame argument 11 a b d [expected, d, .address site.slot]) :: below) =
      proceedWith store (site.frame argument 11 a b d [expected, d, .address site.slot])
        below ((site.frame argument 11 a b d
          [expected, d, .address site.slot]).compareExchange store) := rfl
  have executed : (site.frame argument 11 a b d
      [expected, d, .address site.slot]).compareExchange store =
      .ok (store.setSlot site.slot d, site.frame argument 12 a b d [value]) := by
    have popped : (site.frame argument 11 a b d
        [expected, d, .address site.slot]).popTwo =
        .ok (d, expected, site.frame argument 11 a b d [.address site.slot]) := rfl
    have place : (site.frame argument 11 a b d [.address site.slot]).popAddress "cmpxchg" =
        .ok (site.slot, site.frame argument 11 a b d []) := rfl
    simp only [Frame.compareExchange, popped, ok_bind, place, holds.slot?_eq, unchanged, if_true]
    rfl
  rw [unfolded, executed]
  rfl

/-- Where the exchange succeeded, the routine is about to return. -/
theorem returns (store : Store) (same : value.same value = true) (a c : Value) :
    Traces see limit thread store (.body (site.frame argument 12 a value c [value]) :: below) []
      store (.body (site.frame argument 16 value value c []) :: below) := by
  have branched : attempt limit thread store
      (.body (site.frame argument 15 value value c [value, value]) :: below) =
      .running store (.body ((site.frame argument 15 value value c []).choose
        (!value.same value) 2) :: below) := rfl
  rw [same] at branched
  exact .quiet (sees.body _ _ rfl) rfl (.quiet (sees.body _ _ rfl) rfl
    (.quiet (sees.body _ _ rfl) rfl (.of_quiet (sees.body _ _ rfl) branched)))

end Instructions

/-! ### The whole routine -/

theorem Holds.issue (holds : site.Holds thread store base value) :
    site.Holds thread { store with nextCallback := store.nextCallback + 1 } base value :=
  ⟨holds.loaded, holds.present, holds.active, holds.held⟩

theorem Holds.setSlot (holds : site.Holds thread store base value) (other : Value) :
    (store.setSlot site.slot other).storage? site.slot.instantiation =
      some { base with slots := base.slots.setIfInBounds site.slot.slot other } := by
  rw [Store.setSlot, Store.storage?_updateStorage, if_pos rfl, holds.present]
  rfl

theorem beside_issue (site : Site) (store : Store) :
    site.Beside store { store with nextCallback := store.nextCallback + 1 } :=
  ⟨rfl, Nat.le_succ _, fun _ _ => rfl⟩

theorem beside_setSlot (site : Site) (store : Store) (value : Value) :
    site.Beside store (store.setSlot site.slot value) := by
  refine ⟨rfl, Nat.le_refl _, ?_⟩
  intro other apart
  rw [Store.setSlot, Store.storage?_updateStorage, if_neg apart]

/-- A routine of the dispatcher that was entered with what can be added adds it and is about to
return. -/
theorem Holds.registers (holds : site.Holds thread store base value) (known : value.IsCombinable)
    (sees : SeesReturns see) (combinable : argument.IsCombinable) (limit : Nat)
    (below : List Activation) :
    ∃ after combined a b c, Traces see limit thread store
        (.body (site.frame argument 0 .null .null .null []) :: below) []
        after (.body (site.frame argument 16 a b c []) :: below) ∧
      site.Beside store after ∧ combined.IsCombinable ∧
      combined.targets = value.targets ++ argument.targets ∧
      after.storage? site.slot.instantiation =
        some { base with slots := base.slots.setIfInBounds site.slot.slot combined } := by
  rcases Site.reads site limit thread argument below sees holds .null .null .null with
    ⟨read, rests, toRead⟩
  have readBeside : site.Beside store read := beside_of_rests rests
  have readHolds := holds.rests rests
  have toTaken := Site.takes site limit thread argument below sees read value .null .null .null
  rcases Site.combines site limit thread argument below sees read known combinable value value
    .null with ⟨combined, stays, targets_eq, toCombined⟩
  have combinedBeside := readBeside.trans (beside_issue site read)
  have combinedHolds := readHolds.issue
  rcases Site.addresses site limit thread argument below sees combinedHolds value value combined with
    ⟨addressed, rests, toAddressed⟩
  have addressedBeside := combinedBeside.trans (beside_of_rests rests)
  have addressedHolds := combinedHolds.rests rests
  have toExchanged := Site.exchanges site limit thread argument below sees addressedHolds
    known.same_self value value combined
  have toReturn := Site.returns site limit thread argument below sees
    (addressed.setSlot site.slot combined) known.same_self value combined
  refine ⟨addressed.setSlot site.slot combined, combined, value, value, combined, ?_,
    addressedBeside.trans (beside_setSlot site addressed combined), stays, targets_eq,
    addressedHolds.setSlot combined⟩
  have toOffered : Traces see limit thread addressed
      (.body (site.frame argument 9 value value combined [.address site.slot]) :: below) []
      addressed (.body (site.frame argument 11 value value combined
        [value, combined, .address site.slot]) :: below) :=
    .quiet (sees.body _ _ rfl) rfl (.of_quiet (sees.body _ _ rfl) rfl)
  have toKept : Traces see limit thread { read with nextCallback := read.nextCallback + 1 }
      (.body (site.frame argument 7 value value .null [combined]) :: below) []
      { read with nextCallback := read.nextCallback + 1 }
      (.body (site.frame argument 8 value value combined []) :: below) :=
    .of_quiet (sees.body _ _ rfl) rfl
  exact toRead.trans (toTaken.trans (toCombined.trans (toKept.trans (toAddressed.trans
    (toOffered.trans (toExchanged.trans toReturn))))))

/-- A routine of the dispatcher that is called with what can be added adds it and is about to
return. -/
theorem Usable.registers (usable : site.Usable thread store) (sees : SeesReturns see)
    (combinable : argument.IsCombinable) (enough : ¬limit < depth below + 1) :
    ∃ after a b c, Traces see limit thread store (.call site.target [argument] :: below) []
        after (.body (site.frame argument 16 a b c []) :: below) ∧
      site.Registered store argument after := by
  rcases usable.holds sees limit argument below with
    ⟨ready, base, value, toReady, readyBeside, based, holds, known⟩
  rcases Site.enters site limit thread argument below sees holds enough with
    ⟨entered, rests, toEntered⟩
  rcases (holds.rests rests).registers known sees combinable limit below with
    ⟨after, combined, a, b, c, toReturn, beside, stays, targets_eq, found⟩
  exact ⟨after, a, b, c, toReady.trans (toEntered.trans toReturn),
    (readyBeside.trans (beside_of_rests rests)).trans beside,
    base, value, combined, based, holds.held, stays, targets_eq, found⟩

end Site

end Rekindle.Machine
