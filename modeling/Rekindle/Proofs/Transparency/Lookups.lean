import Rekindle.Proofs.Registration.Register
import Rekindle.Proofs.Reload.Weaving
import Rekindle.Proofs.Transparency.Likeness

/-!
# A module and its woven form

What a machine looks up in a module comes out the same in the woven form, as long as it is about the
module's own declarations: the names of types and members, the slots of fields, what fresh storage
holds, and the signatures of routines.
-/

namespace Rekindle.Machine

open Fallible Reload Validity

/-- A module and its woven form. -/
structure Weave where
  module : Module
  woven : Module
  dispatcher : Dispatcher
  hooked : List TypeId
  reloadable : Reloadable dispatcher hooked module woven

namespace Weave

variable (weave : Weave)

/-- Where what is to be called after a reload is kept. -/
def loadSite : Site where
  module := weave.woven
  handle := firstModule
  owner := weave.dispatcher.type
  routine := weave.dispatcher.registerLoad
  field := weave.dispatcher.loadActions
  registers := weave.reloadable.registersLoad

/-- Where what is to be called before a reload is kept. -/
def unloadSite : Site where
  module := weave.woven
  handle := firstModule
  owner := weave.dispatcher.type
  routine := weave.dispatcher.registerUnload
  field := weave.dispatcher.unloadActions
  registers := weave.reloadable.registersUnload

/-- Both places of the dispatcher. -/
def sites : List Site := [weave.loadSite, weave.unloadSite]

/-- The dispatcher type, which has no parameters. -/
def dispatching : Instantiation where
  module := firstModule
  type := weave.dispatcher.type
  arguments := []

variable {weave : Weave} {id : TypeId} {type : TypeDecl}

theorem type_kept (declared : weave.module.type? id = some type) :
    ∃ routines, weave.woven.type? id = some { type with routines } :=
  weave.reloadable.woven.types id type declared

theorem field_kept {field : FieldId} {declared : FieldDecl}
    (found : weave.module.field? field = some declared) :
    weave.woven.field? field = some declared :=
  weave.reloadable.woven.fields field declared found

theorem routine_kept {routine : RoutineId} {declared : RoutineDecl}
    (found : weave.module.routine? routine = some declared) :
    ∃ body, weave.woven.routine? routine = some { declared with body } := by
  cases weave.reloadable.woven.routines routine declared found with
  | plain kept => exact ⟨declared.body, kept⟩
  | wrapped _ _ _ _ _ _ wrapper => exact ⟨_, wrapper⟩

theorem module_of_mem_sites {site : Site} (listed : site ∈ weave.sites) :
    site.module = weave.woven := by
  simp only [sites, List.mem_cons, List.not_mem_nil, or_false] at listed
  rcases listed with rfl | rfl <;> rfl

theorem handle_of_mem_sites {site : Site} (listed : site ∈ weave.sites) :
    site.handle = firstModule := by
  simp only [sites, List.mem_cons, List.not_mem_nil, or_false] at listed
  rcases listed with rfl | rfl <;> rfl

theorem instantiation_of_mem_sites {site : Site} (listed : site ∈ weave.sites) :
    site.slot.instantiation = weave.dispatching := by
  simp only [sites, List.mem_cons, List.not_mem_nil, or_false] at listed
  rcases listed with rfl | rfl <;> rfl

/-! ### Names -/

theorem fullName_eq (declared : weave.module.type? id = some type) :
    weave.woven.fullName id = weave.module.fullName id := by
  refine Module.fullName_kept ?_ weave.reloadable.woven.typeCount
    (weave.reloadable.valid.nesting.chains id type declared)
  intro other otherType found
  rcases type_kept found with ⟨routines, kept⟩
  exact ⟨otherType.fields, routines, kept⟩

theorem routineName_eq {routine : RoutineId} {declared : RoutineDecl}
    (found : weave.module.routine? routine = some declared) :
    weave.woven.routineName routine = weave.module.routineName routine := by
  rcases routine_kept found with ⟨body, kept⟩
  rcases weave.reloadable.valid.routines routine declared found with ⟨owner, ownerDeclared, _⟩
  simp only [Module.routineName, found, kept]
  rw [fullName_eq ownerDeclared]

theorem fieldName_eq {field : FieldId} {declared : FieldDecl}
    (found : weave.module.field? field = some declared) :
    weave.woven.fieldName field = weave.module.fieldName field := by
  rcases weave.reloadable.valid.fields field declared found with ⟨owner, ownerDeclared, _⟩
  simp only [Module.fieldName, found, field_kept found]
  rw [fullName_eq ownerDeclared]

/-! ### Storage -/

theorem slotOf_eq {field : FieldId} {declared : FieldDecl}
    (found : weave.module.field? field = some declared) :
    Store.slotOf weave.woven field = Store.slotOf weave.module field := by
  rcases weave.reloadable.valid.fields field declared found with ⟨owner, ownerDeclared, _⟩
  rcases type_kept ownerDeclared with ⟨routines, kept⟩
  simp only [Store.slotOf, found, field_kept found, ownerDeclared, kept]

theorem slotOf_ok {field : FieldId} {declared : FieldDecl}
    (found : weave.module.field? field = some declared) :
    ∃ slot, Store.slotOf weave.module field = .ok slot := by
  rcases weave.reloadable.valid.fields field declared found with ⟨owner, ownerDeclared, _⟩
  simp [Store.slotOf, found, ownerDeclared]

theorem freshStorage_eq (declared : weave.module.type? id = some type) (routines : List RoutineId)
    (arguments : List ValueType) :
    Store.freshStorage weave.woven { type with routines } arguments =
      Store.freshStorage weave.module type arguments := by
  simp only [Store.freshStorage, Storage.mk.injEq, and_true]
  congr 1
  apply List.map_congr_left
  intro field listed
  rcases (weave.reloadable.valid.members id type declared).fields field listed with
    ⟨fieldDecl, found, _⟩
  simp only [Store.freshSlot, found, field_kept found]

theorem freshStorage_alike (names : List Nat) (type : TypeDecl) (arguments : List ValueType) :
    Values weave.module names (Store.freshStorage weave.module type arguments).slots
      (Store.freshStorage weave.module type arguments).slots := by
  simp only [Values, Store.freshStorage, List.forall₂_same, List.mem_map]
  rintro value ⟨field, _, rfl⟩
  simp only [Store.freshSlot]
  split
  · split
    · exact Value.default_alike names _
    · exact .null
  · exact .null

end Weave

/-! ### Instantiations and routines of the module -/

section Known

variable {weave : Weave} {module : Module} {names : List Nat} {instantiation : Instantiation}
  {target : BoundRoutine}

theorem Instantiation.Placed.ne_dispatcher (placed : instantiation.Placed weave.module) :
    instantiation.type ≠ weave.dispatcher.type := by
  intro same
  rcases placed.declared with ⟨type, declared, _⟩
  rw [same, weave.reloadable.fresh] at declared
  cases declared

/-- Closing a binding that fits gives as many arguments as the owner has parameters. -/
theorem length_close {arity : Nat} {owner : TypeId} {binding : Binding}
    (fits : BindingFits module arity owner binding) (arguments : List ValueType) :
    ∃ type, module.type? owner = some type ∧
      type.arity = (binding.close arguments).length := by
  rcases fits with ⟨type, declared, right, _⟩
  refine ⟨type, declared, ?_⟩
  cases binding with
  | direct => simpa [bindingFits, Binding.close, Binding.arguments] using right
  | instantiated inner =>
      simp only [bindingFits, Bool.and_eq_true, decide_eq_true_eq, beq_iff_eq] at right
      simp [Binding.close, Binding.arguments, right.2]

end Known

end Rekindle.Machine
