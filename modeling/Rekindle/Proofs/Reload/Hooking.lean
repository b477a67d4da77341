import Rekindle.Proofs.Reload.Appending
import Rekindle.Proofs.Reload.Surveyed

/-!
# Hooking a type

Each step of hooking a candidate of a valid module succeeds, appends at most one routine whose body
is known, and keeps the module valid.
-/

namespace Rekindle.Reload

open Fallible Validity Rekindle.Module

variable {markers : Markers} {module after : Module} {owner : TypeId} {type : TypeDecl}
  {candidate : Candidate}

/-- A type whose parameters can all be named, and whose initializer, if it has one, takes nothing
and leaves nothing. -/
structure Hookable (module : Module) (owner : TypeId) : Prop where
  arity_le : ∀ type, module.type? owner = some type → type.arity ≤ 65535
  initializer : ∀ initializer routine, module.initializer owner = .ok (some initializer) →
    module.routine? initializer = some routine → routine.parameters = [] ∧ routine.result = .void

/-- A type whose initializer, if it has one, has a body. -/
def InitializerRuns (module : Module) (owner : TypeId) : Prop :=
  ∀ initializer routine, module.initializer owner = .ok (some initializer) →
    module.routine? initializer = some routine → routine.body.isSome = true

theorem Hookable.of_initializer {id : RoutineId} {routine : RoutineDecl} (declared : module.type? owner = some type)
    (arity_le : type.arity ≤ 65535) (found : module.initializer owner = .ok (some id))
    (routineFound : module.routine? id = some routine) (takesNone : routine.parameters = [])
    (silent : routine.result = .void) : Hookable module owner := by
  refine ⟨?_, ?_⟩
  · intro other otherDeclared
    rw [declared] at otherDeclared
    cases otherDeclared
    exact arity_le
  · intro other otherRoutine otherFound otherRoutineFound
    rw [found] at otherFound
    cases otherFound
    rw [routineFound] at otherRoutineFound
    cases otherRoutineFound
    exact ⟨takesNone, silent⟩

/-! ### What a candidate keeps -/

theorem Candidate.Sound.grow (grows : Grows module after) (sound : candidate.Sound module) :
    candidate.Sound after := by
  refine ⟨?_, ?_, ?_⟩
  · rcases sound.declared with ⟨type, declared⟩
    rcases grows.types _ type declared with ⟨fields, routines, kept⟩
    exact ⟨_, kept⟩
  · intro found listed
    rcases sound.fields found listed with ⟨field, declared, storage, owns⟩
    exact ⟨field, grows.fields _ field declared, storage, owns⟩
  · intro found listed
    rcases sound.teardowns found listed with ⟨routine, declared, fit, owns⟩
    rcases grows.routines _ routine declared with ⟨body, kept, stays⟩
    refine ⟨_, kept, ?_, owns⟩
    simp only [Survey.isTeardown, Bool.and_eq_true] at fit ⊢
    exact ⟨fit.1, stays fit.2⟩

theorem Candidate.Sound.callable (sound : candidate.Sound module) {teardown : Teardown}
    (listed : teardown ∈ candidate.teardowns) :
    ∃ routine, Callable module teardown.routine routine 0 ∧ routine.owner = candidate.type := by
  rcases sound.teardowns teardown listed with ⟨routine, declared, fit, owns⟩
  simp only [Survey.isTeardown, Bool.and_eq_true, List.isEmpty_iff] at fit
  refine ⟨routine, ⟨declared, ?_, ?_, ?_, ?_⟩, owns⟩
  · exact fit.1.1.1.1.1
  · exact fit.2
  · simp [fit.1.1.1.1.2]
  · simp [RoutineDecl.returns, fit.1.1.1.2]

theorem callInside_eq {id : RoutineId} {routine : RoutineDecl}
    (declared : module.routine? id = some routine)
    (ownerDeclared : module.type? routine.owner = some type) :
    Hook.callInside module id = .ok (.call (ownRoutine type.arity id)) := by
  simp [Hook.callInside, bindRoutine_inside declared ownerDeclared, Except.map, Except.mapError]

theorem mapM_eq_ok_map {α β ε : Type} {items : List α} {compute : α → Except ε β} {value : α → β}
    (succeeds : ∀ item ∈ items, compute item = .ok (value item)) :
    items.mapM compute = .ok (items.map value) := by
  apply mapM_eq_ok_iff.mpr
  induction items with
  | nil => exact .nil
  | cons item others ih =>
      refine .cons (succeeds item List.mem_cons_self) (ih ?_)
      intro other listed
      exact succeeds other (List.mem_cons_of_mem _ listed)

/-! ### The copy of the initializer -/

/-- The body of the initializer of a type. -/
def initializerBody? (module : Module) (owner : TypeId) : Option Body :=
  match module.initializer owner with
  | .ok (some initializer) => (module.routine? initializer).bind (·.body)
  | _ => none

/-- The copy of the initializer of a type of a name. -/
def copyDecl? (markers : Markers) (module : Module) (owner : TypeId) (name : String) :
    Option RoutineDecl :=
  (initializerBody? module owner).map fun body =>
    Hook.addedRoutine markers (Names.initializerCopy name) body

theorem initializerBody?_eq_some_iff {body : Body} :
    initializerBody? module owner = some body ↔ ∃ initializer routine,
      module.initializer owner = .ok (some initializer) ∧
      module.routine? initializer = some routine ∧ routine.body = some body := by
  unfold initializerBody?
  split
  · rename_i initializer found
    simp [found, Option.bind_eq_some_iff]
  · rename_i other
    refine iff_of_false nofun ?_
    rintro ⟨initializer, _, found, _⟩
    exact other initializer found

/-- A copy executes the body of the initializer that it was made of. -/
theorem copyDecl?_eq_some_iff {name : String} {copy : RoutineDecl} :
    copyDecl? markers module owner name = some copy ↔ ∃ initializer routine body,
      module.initializer owner = .ok (some initializer) ∧
      module.routine? initializer = some routine ∧ routine.body = some body ∧
      copy = Hook.addedRoutine markers (Names.initializerCopy name) body := by
  simp only [copyDecl?, Option.map_eq_some_iff, initializerBody?_eq_some_iff]
  constructor
  · rintro ⟨body, ⟨initializer, routine, found, routineFound, hasBody⟩, rfl⟩
    exact ⟨initializer, routine, body, found, routineFound, hasBody, rfl⟩
  · rintro ⟨initializer, routine, body, found, routineFound, hasBody, rfl⟩
    exact ⟨body, ⟨initializer, routine, found, routineFound, hasBody⟩, rfl⟩

theorem copyDecl?_of_absent (markers : Markers) (name : String)
    (absent : module.initializer owner = .ok none) :
    copyDecl? markers module owner name = none := by
  simp [copyDecl?, initializerBody?, absent]

theorem copy_fits (valid : Valid module) (declared : module.type? owner = some type)
    (hookable : Hookable module owner) (grows : Grows module after) {copy : RoutineDecl}
    (isCopy : copyDecl? markers module owner type.name = some copy) :
    RoutineFits after { copy with owner } := by
  rcases copyDecl?_eq_some_iff.mp isCopy with
    ⟨initializer, routine, body, found, routineFound, hasBody, rfl⟩
  have owns := (owned_of_initializer valid.members found routineFound).2
  rcases hookable.initializer initializer routine found routineFound with ⟨parameters, result⟩
  rcases valid.routines initializer routine routineFound with ⟨other, otherFound, _, _, bodies⟩
  rw [owns, declared] at otherFound
  cases otherFound
  rcases grows.types _ type declared with ⟨fields, routines, kept⟩
  apply addedRoutine_fits kept
  intro copied noParameters silent
  apply BodyFits.resign ((bodies body hasBody).grow grows)
  · rw [noParameters, parameters]
  · rw [silent]
    simp [RoutineDecl.returns, result, ValueType.isVoid]

theorem copyInitializer_succeeds (markers : Markers) {work : Workpiece} (valid : Valid work.module)
    (declared : work.module.type? owner = some type) (hookable : Hookable work.module owner)
    (runs : InitializerRuns work.module owner) (room : work.module.routines.size < tableLimit) :
    ∃ copied copy, Hook.copyInitializer markers work owner = .ok (copied, copy) ∧
      Appended work.module owner copied.module
        (copyDecl? markers work.module owner type.name) copy ∧ Valid copied.module := by
  rcases initializer_of_valid valid owner with ⟨found?, found, owned⟩
  have looked : Hook.initializerOf work.module owner = .ok found? := by
    simp [Hook.initializerOf, found, Except.mapError]
  rcases found? with _ | initializer
  · rw [copyDecl?_of_absent markers type.name found]
    refine ⟨work, none, ?_, .nothing, valid⟩
    simp [Hook.copyInitializer, looked]
  · rcases owned initializer rfl with ⟨routine, routineFound, _, _⟩
    rcases Option.isSome_iff_exists.mp (runs initializer routine found routineFound) with
      ⟨body, hasBody⟩
    have decl_eq : copyDecl? markers work.module owner type.name =
        some (Hook.addedRoutine markers (Names.initializerCopy type.name) body) := by
      simp [copyDecl?, initializerBody?, found, routineFound, hasBody]
    rcases append_succeeds declared
      (Hook.addedRoutine markers (Names.initializerCopy type.name) body) room with
      ⟨grown, copy, succeeds, appended⟩
    refine ⟨⟨grown, work.symbols.map fun symbols => symbols.copyRoutine initializer copy⟩,
      some copy, ?_, ?_, ?_⟩
    · simp only [Hook.copyInitializer, looked, ok_bind, routineFound, Option.bind_some, hasBody,
        Hook.nameOf, declared, Hook.addRoutine, succeeds, Except.mapError, pure_eq_ok]
    · rw [decl_eq]
      exact appended
    · apply appended.valid valid
      intro copied isCopy
      apply copy_fits valid declared hookable appended.grows
      rw [decl_eq]
      exact isCopy

/-! ### The routine before a reload -/

/-- The routine that runs the teardown routines of a candidate. -/
def unloadDecl? (markers : Markers) (name : String) (arity : Nat) (candidate : Candidate) :
    Option RoutineDecl :=
  if candidate.teardowns.isEmpty then none
  else some (Hook.addedRoutine markers (Names.unloadType name)
    (Hook.straightLine (candidate.teardowns.map fun teardown =>
      .call (ownRoutine arity teardown.routine))))

theorem teardowns_fit (sound : candidate.Sound module)
    (declared : module.type? candidate.type = some type) (small : type.arity ≤ 65535) :
    LineFits module type.arity (candidate.teardowns.map fun teardown =>
      .call (ownRoutine type.arity teardown.routine)) := by
  have pieces : LineFits module type.arity (candidate.teardowns.map fun teardown =>
      [Instruction.call (ownRoutine type.arity teardown.routine)]).flatten := by
    apply LineFits.flatten
    intro piece listed
    rcases List.mem_map.mp listed with ⟨teardown, isTeardown, rfl⟩
    rcases sound.callable isTeardown with ⟨routine, calls, owns⟩
    rw [← owns] at declared
    exact call_fits calls declared small
  rw [List.map_eq_flatMap, List.flatMap_def]
  exact pieces

theorem teardownCalls_eq (sound : candidate.Sound module)
    (declared : module.type? candidate.type = some type) :
    candidate.teardowns.mapM (fun teardown => Hook.callInside module teardown.routine) =
      .ok (candidate.teardowns.map fun teardown =>
        .call (ownRoutine type.arity teardown.routine)) := by
  apply mapM_eq_ok_map
  intro teardown listed
  rcases sound.teardowns teardown listed with ⟨routine, found, _, owns⟩
  rw [← owns] at declared
  exact callInside_eq found declared

theorem addUnload_succeeds (markers : Markers) (valid : Valid module) (sound : candidate.Sound module)
    (declared : module.type? candidate.type = some type) (small : type.arity ≤ 65535)
    (room : module.routines.size < tableLimit) :
    ∃ after unload, Hook.addUnload markers module candidate = .ok (after, unload) ∧
      Appended module candidate.type after (unloadDecl? markers type.name type.arity candidate)
        unload ∧ Valid after := by
  unfold Hook.addUnload unloadDecl?
  by_cases nothing : candidate.teardowns.isEmpty = true
  · rw [if_pos nothing, if_pos nothing]
    exact ⟨module, none, rfl, .nothing, valid⟩
  · rw [if_neg nothing, if_neg nothing]
    have calls := teardownCalls_eq sound declared
    rcases append_succeeds declared _ room with ⟨after, unload, succeeds, appended⟩
    refine ⟨after, some unload, ?_, appended, ?_⟩
    · simp only [calls, ok_bind, Hook.nameOf, declared, Hook.addRoutine, succeeds, Except.mapError,
        pure_eq_ok]
    · apply appended.valid valid
      rintro _ ⟨⟩
      rcases appended.grows.types _ type declared with ⟨fields, routines, kept⟩
      apply addedRoutine_fits kept
      intro routine _ silent
      exact (teardowns_fit (sound.grow appended.grows) kept small).bodyFits silent

/-! ### The routine after a reload -/

/-- The instructions that reset the fields of a candidate. -/
def resetsOf (module : Module) (arity : Nat) (candidate : Candidate) : List Instruction :=
  (candidate.fields.map fun field => resetOf module arity field.field).flatten

/-- The routine that resets the fields of a candidate and runs the copy of its initializer. -/
def loadDecl? (markers : Markers) (module : Module) (name : String) (arity : Nat)
    (candidate : Candidate) (copy : Option RoutineId) : Option RoutineDecl :=
  if candidate.fields.isEmpty && copy.isNone then none
  else some (Hook.addedRoutine markers (Names.loadType name)
    (Hook.straightLine (resetsOf module arity candidate ++ ownCall arity copy)))

theorem resetsOf_fits (valid : Valid module) (sound : candidate.Sound module)
    (declared : module.type? candidate.type = some type) (small : type.arity ≤ 65535) :
    LineFits module type.arity (resetsOf module type.arity candidate) := by
  apply LineFits.flatten
  intro piece listed
  rcases List.mem_map.mp listed with ⟨found, isField, rfl⟩
  rcases sound.fields found isField with ⟨field, fieldFound, storage, owns⟩
  rcases valid.fields found.field field fieldFound with ⟨other, otherFound, typed, _⟩
  rw [owns, declared] at otherFound
  cases otherFound
  rw [← owns] at declared
  exact resetOf_fits fieldFound storage declared small typed

theorem resetField_eq {id : FieldId} {field : FieldDecl} (found : module.field? id = some field)
    (declared : module.type? field.owner = some type) :
    Hook.resetField module id = .ok (resetOf module type.arity id) := by
  simp [Hook.resetField, bindField_inside found declared, Except.mapError, found, resetOf]

theorem fieldResets_eq (sound : candidate.Sound module)
    (declared : module.type? candidate.type = some type) :
    candidate.fields.mapM (fun field => Hook.resetField module field.field) =
      .ok (candidate.fields.map fun field => resetOf module type.arity field.field) := by
  apply mapM_eq_ok_map
  intro found listed
  rcases sound.fields found listed with ⟨field, fieldFound, _, owns⟩
  rw [← owns] at declared
  exact resetField_eq fieldFound declared

theorem callIfPresent_eq {id? : Option RoutineId} (declared : module.type? owner = some type)
    (callable : ∀ id, id? = some id → ∃ routine, Callable module id routine 0 ∧
      routine.owner = owner) :
    Hook.callIfPresent module id? = .ok (ownCall type.arity id?) := by
  cases id? with
  | none => rfl
  | some id =>
      rcases callable id rfl with ⟨routine, calls, rfl⟩
      simp [Hook.callIfPresent, callInside_eq calls.declared declared, ownCall]

theorem addLoad_succeeds (markers : Markers) (valid : Valid module) (sound : candidate.Sound module)
    (declared : module.type? candidate.type = some type) (small : type.arity ≤ 65535)
    {copy : Option RoutineId}
    (callable : ∀ id, copy = some id → ∃ routine, Callable module id routine 0 ∧
      routine.owner = candidate.type)
    (room : module.routines.size < tableLimit) :
    ∃ after load, Hook.addLoad markers module candidate copy = .ok (after, load) ∧
      Appended module candidate.type after
        (loadDecl? markers module type.name type.arity candidate copy) load ∧ Valid after := by
  unfold Hook.addLoad loadDecl?
  by_cases nothing : (candidate.fields.isEmpty && copy.isNone) = true
  · rw [if_pos nothing, if_pos nothing]
    exact ⟨module, none, rfl, .nothing, valid⟩
  · rw [if_neg nothing, if_neg nothing]
    have resets := fieldResets_eq sound declared
    rcases append_succeeds declared (Hook.addedRoutine markers (Names.loadType type.name)
      (Hook.straightLine (resetsOf module type.arity candidate ++ ownCall type.arity copy))) room
      with ⟨after, load, succeeds, appended⟩
    refine ⟨after, some load, ?_, appended, ?_⟩
    · simp only [resets, callIfPresent_eq declared callable, ok_bind, Hook.nameOf, declared,
        Hook.addRoutine]
      rw [resetsOf] at succeeds
      simp only [succeeds, Except.mapError, ok_bind, pure_eq_ok]
    · apply appended.valid valid
      rintro _ ⟨⟩
      have grows := appended.grows
      rcases grows.types _ type declared with ⟨fields, routines, kept⟩
      apply addedRoutine_fits kept
      intro routine _ silent
      have line : LineFits module type.arity
          (resetsOf module type.arity candidate ++ ownCall type.arity copy) :=
        .append (resetsOf_fits valid sound declared small) (ownCall_fits declared small callable)
      exact (line.bodyFits silent).grow grows

/-! ### The rewired initializer -/

/-- What both routines that add to the dispatcher's slots are good for: they can be called with one
argument from everywhere. -/
structure Registrars (module : Module) (dispatcher : Dispatcher) : Prop where
  registers : ∀ id, id = dispatcher.registerLoad ∨ id = dispatcher.registerUnload →
    ∃ routine type, Callable module id routine 1 ∧ module.type? routine.owner = some type ∧
      type.arity = 0

theorem Registrars.grow {dispatcher : Dispatcher} (grows : Grows module after)
    (registrars : Registrars module dispatcher) : Registrars after dispatcher := by
  refine ⟨?_⟩
  intro id isRegistrar
  rcases registrars.registers id isRegistrar with ⟨routine, type, calls, declared, plain⟩
  rcases calls.grow grows with ⟨grown, callsStill, owner_eq⟩
  rcases grows.types _ type declared with ⟨fields, routines, kept⟩
  rw [← owner_eq] at kept
  exact ⟨grown, _, callsStill, kept, plain⟩

/-- The instructions of a rewired initializer. -/
def wrapperLine (arity : Nat) (dispatcher : Dispatcher) (copy load unload : Option RoutineId) :
    List Instruction :=
  ownCall arity copy ++ registration arity dispatcher.registerLoad load ++
    registration arity dispatcher.registerUnload unload

theorem register_eq {id? : Option RoutineId} {registrar : RoutineId} {registrarDecl : RoutineDecl}
    {registrarType : TypeDecl} (declared : module.type? owner = some type)
    (callable : ∀ id, id? = some id → ∃ routine, Callable module id routine 0 ∧
      routine.owner = owner)
    (registers : Callable module registrar registrarDecl 1)
    (registrarOwner : module.type? registrarDecl.owner = some registrarType)
    (plain : registrarType.arity = 0) :
    Hook.register module id? registrar = .ok (registration type.arity registrar id?) := by
  cases id? with
  | none => rfl
  | some id =>
      rcases callable id rfl with ⟨routine, calls, rfl⟩
      have call := callInside_eq registers.declared registrarOwner
      rw [plain] at call
      simp [Hook.register, bindRoutine_inside calls.declared declared, Except.mapError, call,
        registration, ownRoutine, ownBinding]

section Rewiring

variable {dispatcher : Dispatcher} {copy load unload : Option RoutineId}

/-- Routines of a type that can be called without arguments, if they are present. -/
def AllCallable (module : Module) (owner : TypeId) (ids : List (Option RoutineId)) : Prop :=
  ∀ id? ∈ ids, ∀ id, id? = some id → ∃ routine, Callable module id routine 0 ∧
    routine.owner = owner

theorem AllCallable.grow (grows : Grows module after) {ids : List (Option RoutineId)}
    (callable : AllCallable module owner ids) : AllCallable after owner ids := by
  intro id? listed id present
  rcases callable id? listed id present with ⟨routine, calls, owns⟩
  rcases calls.grow grows with ⟨grown, callsStill, owner_eq⟩
  exact ⟨grown, callsStill, owner_eq.trans owns⟩

theorem initializerBody_eq (declared : module.type? owner = some type)
    (callable : AllCallable module owner [copy, load, unload])
    (registrars : Registrars module dispatcher) :
    Hook.initializerBody module dispatcher copy load unload =
      .ok (Hook.straightLine (wrapperLine type.arity dispatcher copy load unload)) := by
  rcases registrars.registers _ (.inl rfl) with ⟨_, _, loads, loadsOwner, loadsPlain⟩
  rcases registrars.registers _ (.inr rfl) with ⟨_, _, unloads, unloadsOwner, unloadsPlain⟩
  have call := callIfPresent_eq declared (callable copy (by simp))
  have registerLoad := register_eq declared (callable load (by simp)) loads loadsOwner loadsPlain
  have registerUnload :=
    register_eq declared (callable unload (by simp)) unloads unloadsOwner unloadsPlain
  simp [Hook.initializerBody, call, registerLoad, registerUnload, wrapperLine]

theorem wrapperLine_fits (declared : module.type? owner = some type) (small : type.arity ≤ 65535)
    (callable : AllCallable module owner [copy, load, unload])
    (registrars : Registrars module dispatcher) :
    LineFits module type.arity (wrapperLine type.arity dispatcher copy load unload) := by
  rcases registrars.registers _ (.inl rfl) with ⟨_, _, loads, loadsOwner, loadsPlain⟩
  rcases registrars.registers _ (.inr rfl) with ⟨_, _, unloads, unloadsOwner, unloadsPlain⟩
  apply LineFits.append
  · apply LineFits.append
    · exact ownCall_fits declared small (callable copy (by simp))
    · exact registration_fits declared small (callable load (by simp)) loads loadsOwner loadsPlain
  · exact registration_fits declared small (callable unload (by simp)) unloads unloadsOwner
      unloadsPlain

/-- The initializer that is made for a type without one. -/
def madeDecl? (module : Module) (owner : TypeId) : Option RoutineDecl :=
  match module.initializer owner with
  | .ok none => some (.typeInitializer .returning)
  | _ => none

/-- Which routine is the initializer of a type once there must be one. -/
def IsInitializer (module : Module) (owner : TypeId) (initializer : RoutineId)
    (made : Option RoutineId) : Prop :=
  module.initializer owner = .ok (some initializer) ∧ made = none ∨
    module.initializer owner = .ok none ∧ made = some initializer

theorem ensureInitializer_succeeds (valid : Valid module)
    (declared : module.type? owner = some type) (room : module.routines.size < tableLimit) :
    ∃ ensured initializer made, Hook.ensureInitializer module owner = .ok (ensured, initializer) ∧
      Appended module owner ensured (madeDecl? module owner) made ∧
      IsInitializer module owner initializer made ∧ Valid ensured := by
  rcases initializer_of_valid valid owner with ⟨found?, found, _⟩
  have looked : Hook.initializerOf module owner = .ok found? := by
    simp [Hook.initializerOf, found, Except.mapError]
  rcases found? with _ | initializer
  · have decl_eq : madeDecl? module owner = some (.typeInitializer .returning) := by
      simp [madeDecl?, found]
    rw [decl_eq]
    rcases append_succeeds declared (.typeInitializer .returning) room with
      ⟨ensured, initializer, succeeds, appended⟩
    refine ⟨ensured, initializer, some initializer, ?_, appended, .inr ⟨found, rfl⟩, ?_⟩
    · simp [Hook.ensureInitializer, looked, succeeds, Except.mapError]
    · apply appended.valid valid
      rintro _ ⟨⟩
      rcases appended.grows.types _ type declared with ⟨fields, routines, kept⟩
      refine ⟨_, kept, trivial, by simp [RoutineDecl.typeInitializer, RoutineDecl.static], ?_⟩
      rintro _ ⟨⟩
      exact (LineFits.nil ensured _).bodyFits rfl
  · have decl_eq : madeDecl? module owner = none := by
      simp [madeDecl?, found]
    rw [decl_eq]
    refine ⟨module, initializer, none, ?_, .nothing, .inl ⟨found, rfl⟩, valid⟩
    simp [Hook.ensureInitializer, looked]

end Rewiring

end Rekindle.Reload
