import Rekindle.Proofs.Registry.Wiring
import Rekindle.Proofs.Reload.Touching
import Rekindle.Reload.Cycle

/-!
# Tended dispatchers

Whatever a module did before it was made reloadable, also if it names initializers, nothing in it
writes to its dispatcher but the two routines that add to it. A reloader finds the dispatcher by its
name, and in it the routines that call what was added.
-/

namespace Rekindle.Reload

open Fallible Validity Rekindle.Module

/-- The routine of a dispatcher that calls what is listed for an occasion. -/
def Dispatcher.invoker (dispatcher : Dispatcher) : Occasion → RoutineId
  | .unload => dispatcher.unload
  | .load => dispatcher.load

/-- An instruction that does not write to a dispatcher. -/
def Sparing (dispatcher : Dispatcher) (module : Module) : Instruction → Prop
  | .storeField reference | .loadFieldAddress reference =>
    ∀ field, module.field? reference.field = some field → field.owner ≠ dispatcher.type
  | _ => True

/-- A body of which no instruction writes to a dispatcher. -/
def SparingBody (dispatcher : Dispatcher) (module : Module) (body : Body) : Prop :=
  ∀ instruction ∈ body.instructions.toList, Sparing dispatcher module instruction

/-- A module with a dispatcher that only its own routines write to. -/
structure Tended (module : Module) (dispatcher : Dispatcher) : Prop where
  valid : Valid module
  registers : ∀ occasion, Machine.Registers module dispatcher.type (dispatcher.registrar occasion)
    (dispatcher.actions occasion)
  invokes : ∀ occasion, ∃ markers name, module.routine? (dispatcher.invoker occasion) =
    some { Dispatcher.invokeDecl markers name (Dispatcher.slotRef (dispatcher.actions occasion)) with
      owner := dispatcher.type }
  plain : ∀ type, module.type? dispatcher.type = some type → type.arity = 0
  actions_apart : dispatcher.actions .unload ≠ dispatcher.actions .load
  registrars_apart : dispatcher.registrar .unload ≠ dispatcher.registrar .load
  sparing : ∀ id routine body, module.routine? id = some routine → routine.body = some body →
    (∀ occasion, id ≠ dispatcher.registrar occasion) → SparingBody dispatcher module body

variable {markers : Markers} {module after dispatched : Module} {dispatcher : Dispatcher}
  {candidate : Candidate} {type : TypeDecl} {hook : Hook} {instruction : Instruction}

/-! ### What does not write to a dispatcher -/

theorem Discreet.sparing (discreet : Discreet dispatcher module instruction) :
    Sparing dispatcher module instruction := by
  cases instruction with
  | storeField | loadFieldAddress => exact discreet
  | _ => trivial

theorem sparing_straightLine {line : List Instruction}
    (sparing : ∀ instruction ∈ line, Sparing dispatcher module instruction) :
    SparingBody dispatcher module (Hook.straightLine line) := by
  intro instruction listed
  simp only [Hook.straightLine, List.toList_toArray, List.mem_append, List.mem_singleton] at listed
  rcases listed with early | rfl
  · exact sparing instruction early
  · trivial

theorem sparing_ownCall (arity : Nat) (id? : Option RoutineId) :
    ∀ instruction ∈ ownCall arity id?, Sparing dispatcher module instruction := by
  cases id? <;> simp [ownCall, Sparing]

theorem sparing_registration (arity : Nat) (registrar : RoutineId) (id? : Option RoutineId) :
    ∀ instruction ∈ registration arity registrar id?, Sparing dispatcher module instruction := by
  cases id? <;> simp [registration, Sparing]

theorem sparing_wrapperBody (arity : Nat) (dispatcher : Dispatcher) (hook : Hook) :
    SparingBody dispatcher module (wrapperBody arity dispatcher hook) := by
  apply sparing_straightLine
  simp only [wrapperLine, List.forall_mem_append]
  exact ⟨⟨sparing_ownCall _ _, sparing_registration _ _ _⟩, sparing_registration _ _ _⟩

theorem unloadDecl?_sparing {name : String} {arity : Nat} {unload : RoutineDecl} {body : Body}
    (isUnload : unloadDecl? markers name arity candidate = some unload)
    (hasBody : unload.body = some body) : SparingBody dispatcher module body := by
  simp only [unloadDecl?, Option.ite_none_left_eq_some, Option.some.injEq] at isUnload
  rcases isUnload with ⟨_, rfl⟩
  cases hasBody
  apply sparing_straightLine
  intro instruction listed
  rcases List.mem_map.mp listed with ⟨teardown, _, rfl⟩
  trivial

theorem loadDecl?_sparing (grows : Grows module after) (sound : candidate.Sound module)
    (apart : candidate.type ≠ dispatcher.type) {copy? : Option RoutineId} {name : String}
    {arity : Nat} {load : RoutineDecl} {body : Body}
    (isLoad : loadDecl? markers module name arity candidate copy? = some load)
    (hasBody : load.body = some body) : SparingBody dispatcher after body := by
  simp only [loadDecl?, Option.ite_none_left_eq_some, Option.some.injEq] at isLoad
  rcases isLoad with ⟨_, rfl⟩
  cases hasBody
  apply sparing_straightLine
  simp only [List.forall_mem_append]
  exact ⟨fun instruction listed =>
    (resetsOf_discreet grows sound apart arity instruction listed).sparing, sparing_ownCall _ _⟩

section Added

variable (added : Dispatcher.Added markers module dispatched dispatcher)
include added

/-- What a module did before its dispatcher was added does not write to it. -/
theorem Dispatcher.Added.sparing (valid : Valid module) (grows : Grows module after)
    {id : RoutineId} {routine : RoutineDecl} {body : Body}
    (found : module.routine? id = some routine) (hasBody : routine.body = some body) :
    SparingBody dispatcher after body := by
  intro instruction listed
  rcases valid.routines id routine found with ⟨owner, _, _, _, bodies⟩
  have operand := ((bodies body hasBody).instructions instruction listed).operand
  cases instruction with
  | storeField reference | loadFieldAddress reference =>
      rcases operand with ⟨field, fieldFound, _⟩
      exact added.owner_ne_grown valid grows fieldFound
  | _ => trivial

theorem Dispatcher.Added.copyDecl?_sparing (valid : Valid module) (grows : Grows module after)
    {owner : TypeId} {name : String} {copy : RoutineDecl} {body : Body}
    (isCopy : copyDecl? markers module owner name = some copy) (hasBody : copy.body = some body) :
    SparingBody dispatcher after body := by
  rcases copyDecl?_eq_some_iff.mp isCopy with ⟨_, _, original, _, found, bodied, rfl⟩
  cases hasBody
  exact added.sparing valid grows found bodied

/-- What was added to a hooked type does not write to the dispatcher. -/
theorem Installed.sparing
    (installed : Installed markers dispatcher module candidate type after hook)
    (valid : Valid module) (grows : Grows module after) (sound : candidate.Sound module)
    {id : RoutineId} {routine : RoutineDecl} {body : Body} (isAdded : some id ∈ hook.added)
    (found : after.routine? id = some routine) (hasBody : routine.body = some body) :
    SparingBody dispatcher after body := by
  rcases Hook.mem_added.mp isAdded with copies | loads | unloads
  · rcases installed.copy.declares copies found hasBody with ⟨_, isCopy, hasBody⟩
    exact added.copyDecl?_sparing valid grows isCopy hasBody
  · rcases installed.load.declares loads found hasBody with ⟨_, isLoad, hasBody⟩
    exact loadDecl?_sparing grows sound (added.type_apart sound) isLoad hasBody
  · rcases installed.unload.declares unloads found hasBody with ⟨_, isUnload, hasBody⟩
    exact unloadDecl?_sparing isUnload hasBody

theorem Dispatcher.Added.invokes (occasion : Occasion) :
    ∃ name, dispatched.routine? (dispatcher.invoker occasion) =
      some { Dispatcher.invokeDecl markers name
        (Dispatcher.slotRef (dispatcher.actions occasion)) with owner := dispatcher.type } := by
  cases occasion with
  | unload => exact ⟨_, added.routine?_unload⟩
  | load => exact ⟨_, added.routine?_load⟩

end Added

/-! ### The module as a whole -/

section Made

variable {candidates : List Candidate} {instrumented : Instrumented}
  (made : Made markers module candidates instrumented)
include made

/-- A module that was made reloadable is tended, if it is valid. -/
theorem Made.tended (valid : Valid instrumented.module) :
    Tended instrumented.module instrumented.dispatcher := by
  have installed := made.installed
  rcases made.spared with ⟨dispatched, added, hooked, spared⟩
  refine ⟨valid, fun occasion => spared.registers (added.registers occasion), ?_, ?_,
    added.actions_apart, added.registrars_apart, ?_⟩
  · intro occasion
    rcases added.invokes occasion with ⟨name, found⟩
    exact ⟨markers, name, spared.routines _ _ found rfl⟩
  · intro type declared
    rw [spared.type?_eq, added.type?_type] at declared
    cases declared
    rfl
  · intro id routine body found hasBody apart
    rcases hooked.origin found with ⟨hook, listed, same | isAdded⟩ | before
    · rcases installed.of_hook listed with ⟨_, _, type, _, installed⟩
      rcases installed.wrapper with ⟨original, _, wrapped⟩
      rw [same, wrapped] at found
      cases found
      cases hasBody
      exact sparing_wrapperBody _ _ _
    · rcases installed.of_hook listed with ⟨candidate, isCandidate, type, _, installed⟩
      exact installed.sparing added made.valid made.grows (made.sound candidate isCandidate)
        isAdded found hasBody
    · rcases added.origin before with original | ⟨occasion, same⟩ | ⟨occasion, name, rfl⟩
      · exact added.sparing made.valid made.grows original hasBody
      · exact absurd same (apart occasion)
      · cases hasBody
        intro instruction listed
        exact (discreet_invokeBody _ instruction listed).sparing

/-! ### What a reloader finds -/

/-- A dispatcher is found by its name, if nothing of that name was there before. -/
theorem Made.findType_eq (touches : Touches markers module instrumented)
    (absent : module.findType Names.dispatcher = none) :
    instrumented.module.findType Names.dispatcher = some instrumented.dispatcher.type := by
  have named : instrumented.module.fullName instrumented.dispatcher.type = Names.dispatcher := by
    simp only [fullName, touches.typeCount, outerChain, touches.dispatcher_declared]
    rfl
  have only : ∀ id ∈ instrumented.module.typeIds,
      instrumented.module.fullName id = Names.dispatcher → id = instrumented.dispatcher.type := by
    intro id listed same
    by_contra apart
    have inside : id.position < module.types.size := by
      rw [mem_typeIds, touches.typeCount] at listed
      rw [← TypeId.position_inj, touches.dispatcher_last] at apart
      omega
    have declared : module.type? id = some module.types[id.position] :=
      Array.getElem?_eq_getElem inside
    rw [fullName_kept made.grows.types made.grows.typeCount
      (made.valid.nesting.chains id _ declared)] at same
    have unnamed := List.find?_eq_none.mp absent id (mem_typeIds.mpr inside)
    exact unnamed (decide_eq_true same)
  rcases found : instrumented.module.findType Names.dispatcher with _ | id
  · have inside : instrumented.dispatcher.type ∈ instrumented.module.typeIds := by
      rw [mem_typeIds, touches.typeCount, touches.dispatcher_last]
      omega
    exact absurd (decide_eq_true named) (List.find?_eq_none.mp found _ inside)
  · rw [findType] at found
    have isNamed := List.find?_some found
    rw [only id (List.mem_of_find?_eq_some found) (of_decide_eq_true isNamed)]

/-- A module that was made reloadable is reloaded by the routines of its dispatcher. -/
theorem Made.reloadable?_eq (touches : Touches markers module instrumented)
    (absent : module.findType Names.dispatcher = none) (handle : Machine.ModuleHandle) :
    reloadable? handle instrumented.module = some
      { handle, name := instrumented.module.name, unload := instrumented.dispatcher.unload,
        load := instrumented.dispatcher.load } := by
  rcases made.spared with ⟨dispatched, added, _, spared⟩
  have first := spared.routines _ _ added.routine?_registerUnload rfl
  have second := spared.routines _ _ added.routine?_registerLoad rfl
  have third := spared.routines _ _ added.routine?_unload rfl
  have fourth := spared.routines _ _ added.routine?_load rfl
  have unload : entryRoutine instrumented.module instrumented.dispatcher.type Names.unload =
      some instrumented.dispatcher.unload := by
    simp [entryRoutine, findRoutine, touches.dispatcher_declared, Dispatcher.completeType,
      firstRoutine, first, second, third, Dispatcher.registerDecl, Dispatcher.invokeDecl,
      RoutineDecl.static, Names.registerUnload, Names.registerLoad, Names.unload]
  have load : entryRoutine instrumented.module instrumented.dispatcher.type Names.load =
      some instrumented.dispatcher.load := by
    simp [entryRoutine, findRoutine, touches.dispatcher_declared, Dispatcher.completeType,
      firstRoutine, first, second, third, fourth, Dispatcher.registerDecl, Dispatcher.invokeDecl,
      RoutineDecl.static, Names.registerUnload, Names.registerLoad, Names.unload, Names.load]
  simp [reloadable?, made.findType_eq touches absent, unload, load]

end Made

/-- A module without a dispatcher is not reloaded. -/
theorem reloadable?_eq_none (absent : module.findType Names.dispatcher = none)
    (handle : Machine.ModuleHandle) : reloadable? handle module = none := by
  simp [reloadable?, absent]

/-- A module that has a dispatcher already is not made reloadable. -/
theorem instrument_absent {settings : Settings} {symbols : Option Symbols}
    {instrumented : Instrumented}
    (makes : instrument settings module symbols = .ok (some instrumented))
    (room : Room module 1 2 4) : module.findType Names.dispatcher = none := by
  rcases instrument_passed makes with ⟨_, _, passed⟩
  exact (Dispatcher.addTo_added passed.added room).1

end Rekindle.Reload
