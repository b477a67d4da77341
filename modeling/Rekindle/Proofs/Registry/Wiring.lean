import Rekindle.Proofs.Reload.Installing

/-!
# The wiring of a dispatcher

A module that was made reloadable consists of the initializers of its hooked types, which register
with the dispatcher, of the two routines of the dispatcher that they call for it, and of everything
else. Everything else names neither of them and does not write to the dispatcher, as long as nothing
in the module that it came from names an initializer.
-/

namespace Rekindle.Reload

open Fallible Validity Rekindle.Module

/-- When the routines of hooked types are called. -/
inductive Occasion where
  | unload
  | load
deriving DecidableEq, Repr

/-- The routine of a dispatcher that adds to what is called on an occasion. -/
def Dispatcher.registrar (dispatcher : Dispatcher) : Occasion → RoutineId
  | .unload => dispatcher.registerUnload
  | .load => dispatcher.registerLoad

/-- The field of a dispatcher with what is called on an occasion. -/
def Dispatcher.actions (dispatcher : Dispatcher) : Occasion → FieldId
  | .unload => dispatcher.unloadActions
  | .load => dispatcher.loadActions

/-- What a hooked type has to be called on an occasion. -/
def Hook.routine (hook : Hook) : Occasion → Option RoutineId
  | .unload => hook.unload
  | .load => hook.load

/-- What hooking a type added to it. -/
def Hook.added (hook : Hook) : List (Option RoutineId) :=
  [hook.initializerCopy, hook.load, hook.unload]

theorem Hook.mem_added {hook : Hook} {id : RoutineId} :
    some id ∈ hook.added ↔
      hook.initializerCopy = some id ∨ hook.load = some id ∨ hook.unload = some id := by
  simp [added, eq_comm]

/-- A module in which no instruction names an initializer. -/
def NamesNoInitializer (module : Module) : Prop :=
  ∀ id routine body, module.routine? id = some routine → routine.body = some body →
    ∀ instruction ∈ body.instructions.toList, ∀ reference,
      instruction = .call reference ∨ instruction = .loadRoutine reference →
      ∀ named, module.routine? reference.routine = some named → named.isInitializer = false

/-- A routine that is neither an initializer nor adds to a dispatcher. -/
structure Nameable (dispatcher : Dispatcher) (module : Module) (id : RoutineId) : Prop where
  declared : ∃ routine, module.routine? id = some routine ∧ routine.isInitializer = false
  apart : ∀ occasion, id ≠ dispatcher.registrar occasion

/-- An instruction that names only nameable routines and does not write to a dispatcher. -/
def Discreet (dispatcher : Dispatcher) (module : Module) : Instruction → Prop
  | .call reference | .loadRoutine reference => Nameable dispatcher module reference.routine
  | .storeField reference | .loadFieldAddress reference =>
    ∀ field, module.field? reference.field = some field → field.owner ≠ dispatcher.type
  | _ => True

/-- What a body is in a module that was made reloadable. -/
inductive Standing (dispatcher : Dispatcher) (hooks : List Hook) (module : Module)
    (id : RoutineId) (body : Body) : Prop where
  | wrapper {hook : Hook} (listed : hook ∈ hooks) (same : id = hook.initializer)
  | registrar {occasion : Occasion} (same : id = dispatcher.registrar occasion)
  | discreet (discreet : ∀ instruction ∈ body.instructions.toList,
      Discreet dispatcher module instruction)

/-- The initializer of a hooked type. -/
structure Wrapped (dispatcher : Dispatcher) (module : Module) (hook : Hook) (type : TypeDecl)
    (routine : RoutineDecl) : Prop where
  declared : module.type? hook.type = some type
  initializer_eq : module.initializer hook.type = .ok (some hook.initializer)
  found : module.routine? hook.initializer = some routine
  hasBody : routine.body = some (wrapperBody type.arity dispatcher hook)
  silent : routine.returns = false
  small : ∀ id, some id ∈ hook.added → type.arity ≤ 65535

/-- A module whose hooked types register with a dispatcher. -/
structure Wired (module : Module) (dispatcher : Dispatcher) (hooks : List Hook) : Prop where
  valid : Valid module
  registers : ∀ occasion, Machine.Registers module dispatcher.type (dispatcher.registrar occasion)
    (dispatcher.actions occasion)
  plain : ∀ type, module.type? dispatcher.type = some type → type.arity = 0
  actions_apart : dispatcher.actions .unload ≠ dispatcher.actions .load
  registrars_apart : dispatcher.registrar .unload ≠ dispatcher.registrar .load
  apart : ∀ hook ∈ hooks, hook.type ≠ dispatcher.type
  distinct : (hooks.map (·.type)).Nodup
  wrapped : ∀ hook ∈ hooks, ∃ type routine, Wrapped dispatcher module hook type routine
  callable : ∀ hook ∈ hooks, AllCallable module hook.type hook.added
  nameable : ∀ hook ∈ hooks, ∀ id, some id ∈ hook.added → Nameable dispatcher module id
  standing : ∀ id routine body, module.routine? id = some routine → routine.body = some body →
    Standing dispatcher hooks module id body

variable {markers : Markers} {module middle after dispatched : Module} {dispatcher : Dispatcher}
  {candidate : Candidate} {type : TypeDecl} {hook : Hook} {hooks : List Hook}
  {candidates : List Candidate}

/-! ### Where routines come from -/

theorem Hooked.origin (hooked : Hooked markers dispatcher module candidate type after hook)
    {id : RoutineId} {routine : RoutineDecl} (found : after.routine? id = some routine) :
    id = hook.initializer ∨ some id ∈ hook.added ∨ module.routine? id = some routine := by
  cases hooked with
  | intro type_eq copy unload load ensure isInitializer declared rewire =>
      rw [rewire.routine?_eq] at found
      split at found
      · exact .inl ‹_›
      · rename_i apart
        right
        rw [ensure.routine?_eq] at found
        split at found
        · rename_i made_eq
          rcases isInitializer with ⟨_, none_eq⟩ | ⟨_, some_eq⟩
          · rw [none_eq] at made_eq
            cases made_eq
          · rw [some_eq] at made_eq
            exact absurd (Option.some.inj made_eq) apart
        · rw [load.routine?_eq] at found
          split at found
          · exact .inl (by simp [Hook.added, *])
          · rw [unload.routine?_eq] at found
            split at found
            · exact .inl (by simp [Hook.added, *])
            · rw [copy.routine?_eq] at found
              split at found
              · exact .inl (by simp [Hook.added, *])
              · exact .inr found

/-- A routine of a module with hooked types is one that hooking added or changed, or it was there
before. -/
theorem HookedEach.origin (hooked : HookedEach markers dispatcher module candidates after hooks)
    {id : RoutineId} {routine : RoutineDecl} (found : after.routine? id = some routine) :
    (∃ hook ∈ hooks, id = hook.initializer ∨ some id ∈ hook.added) ∨
      module.routine? id = some routine := by
  induction hooked with
  | nil => exact .inr found
  | cons declared first others ih =>
      rcases ih found with ⟨hook, listed, same⟩ | before
      · exact .inl ⟨hook, List.mem_cons_of_mem _ listed, same⟩
      · rcases first.origin before with same | added | earlier
        · exact .inl ⟨_, List.mem_cons_self, .inl same⟩
        · exact .inl ⟨_, List.mem_cons_self, .inr added⟩
        · exact .inr earlier

theorem Dispatcher.Added.origin (added : Dispatcher.Added markers module after dispatcher)
    {id : RoutineId} {routine : RoutineDecl} (found : after.routine? id = some routine) :
    module.routine? id = some routine ∨ (∃ occasion, id = dispatcher.registrar occasion) ∨
      ∃ occasion name, routine = { Dispatcher.invokeDecl markers name
        (Dispatcher.slotRef (dispatcher.actions occasion)) with owner := dispatcher.type } := by
  rw [added.routine?_eq] at found
  unfold Dispatcher.routineDecl? at found
  split_ifs at found with load unload registerLoad registerUnload
  · cases found
    exact .inr (.inr ⟨.load, _, rfl⟩)
  · cases found
    exact .inr (.inr ⟨.unload, _, rfl⟩)
  · exact .inr (.inl ⟨.load, registerLoad⟩)
  · exact .inr (.inl ⟨.unload, registerUnload⟩)
  · exact .inl found

/-! ### What is installed -/

theorem AllInstalled.types_eq
    (installed : AllInstalled markers dispatcher module after candidates hooks) :
    hooks.map (·.type) = candidates.map (·.type) := by
  unfold AllInstalled at installed
  induction installed with
  | nil => rfl
  | cons first others ih =>
      rcases first with ⟨_, _, first⟩
      rw [List.map_cons, List.map_cons, ih, first.type_eq]

theorem Stands.added {routine? : Option RoutineDecl} {id? : Option RoutineId} {owner : TypeId}
    (stands : Stands module owner routine? id?) (added : AllAdded markers routine?) (id : RoutineId)
    (present : id? = some id) : ∃ routine, Callable module id routine 0 ∧ routine.owner = owner ∧
      routine.isInitializer = false := by
  subst present
  rcases stands.some_iff with ⟨routine, declared, found⟩
  rcases added routine declared with ⟨name, body, rfl⟩
  exact ⟨_, ⟨found, rfl, rfl, rfl, rfl⟩, rfl, rfl⟩

/-- What was added to a hooked type can be called and is no initializer. -/
theorem Installed.added
    (installed : Installed markers dispatcher module candidate type after hook) (id : RoutineId)
    (added : some id ∈ hook.added) : ∃ routine, Callable after id routine 0 ∧
      routine.owner = candidate.type ∧ routine.isInitializer = false := by
  rcases Hook.mem_added.mp added with present | present | present
  · exact installed.copy.added (copyDecl?_added _ _ _ _) id present
  · exact installed.load.added (loadDecl?_added _ _ _ _ _ _) id present
  · exact installed.unload.added (unloadDecl?_added _ _ _ _) id present

theorem Installed.nameable
    (installed : Installed markers dispatcher module candidate type after hook)
    (registers : ∀ occasion, ∃ field,
      Machine.Registers after dispatcher.type (dispatcher.registrar occasion) field)
    (apart : candidate.type ≠ dispatcher.type) (id : RoutineId) (added : some id ∈ hook.added) :
    Nameable dispatcher after id := by
  rcases installed.added id added with ⟨routine, calls, owns, plain⟩
  refine ⟨⟨routine, calls.declared, plain⟩, ?_⟩
  rintro occasion rfl
  rcases registers occasion with ⟨_, registers⟩
  rcases registers.routine_declared with ⟨_, _, found⟩
  rw [calls.declared] at found
  cases found
  exact apart owns.symm

/-! ### What is discreet -/

theorem discreet_invokeBody (slot : FieldRef) :
    ∀ instruction ∈ (Dispatcher.invokeBody slot).instructions.toList,
      Discreet dispatcher module instruction := by
  simp [Dispatcher.invokeBody, Discreet]

theorem discreet_straightLine {line : List Instruction}
    (discreet : ∀ instruction ∈ line, Discreet dispatcher module instruction) :
    ∀ instruction ∈ (Hook.straightLine line).instructions.toList,
      Discreet dispatcher module instruction := by
  intro instruction listed
  simp only [Hook.straightLine, List.toList_toArray, List.mem_append, List.mem_singleton] at listed
  rcases listed with early | rfl
  · exact discreet instruction early
  · trivial

section Discreet

variable (added : Dispatcher.Added markers module dispatched dispatcher)
include added

theorem Dispatcher.Added.nameable (grows : Grows module after) {id : RoutineId}
    {routine : RoutineDecl} (found : module.routine? id = some routine)
    (plain : routine.isInitializer = false) : Nameable dispatcher after id := by
  refine ⟨?_, ?_⟩
  · rcases grows.routines id routine found with ⟨body, kept, _⟩
    exact ⟨_, kept, plain⟩
  · have inside := position_lt_of_routine? found
    have unload := added.registerUnload_position
    have load := added.registerLoad_position
    rintro occasion rfl
    cases occasion with
    | unload =>
        simp only [Dispatcher.registrar] at inside
        omega
    | load =>
        simp only [Dispatcher.registrar] at inside
        omega

theorem Dispatcher.Added.owner_ne (valid : Valid module) {id : FieldId} {field : FieldDecl}
    (found : module.field? id = some field) : field.owner ≠ dispatcher.type := by
  rcases valid.fields id field found with ⟨type, declared, _⟩
  have inside := position_lt_of_type? declared
  rw [Ne, ← TypeId.position_inj, added.type_position]
  omega

theorem Dispatcher.Added.owner_ne_grown (valid : Valid module) (grows : Grows module after)
    {id : FieldId} {field : FieldDecl} (found : module.field? id = some field) :
    ∀ other, after.field? id = some other → other.owner ≠ dispatcher.type := by
  intro other otherFound
  rw [grows.fields id field found] at otherFound
  cases otherFound
  exact added.owner_ne valid found

/-- A body of a module in which nothing names an initializer is discreet. -/
theorem Dispatcher.Added.discreet (valid : Valid module) (grows : Grows module after)
    (unnamed : NamesNoInitializer module) {id : RoutineId} {routine : RoutineDecl} {body : Body}
    (found : module.routine? id = some routine) (hasBody : routine.body = some body) :
    ∀ instruction ∈ body.instructions.toList, Discreet dispatcher after instruction := by
  intro instruction listed
  rcases valid.routines id routine found with ⟨owner, _, _, _, bodies⟩
  have operand := ((bodies body hasBody).instructions instruction listed).operand
  have plain := unnamed id routine body found hasBody instruction listed
  cases instruction with
  | call reference | loadRoutine reference =>
      rcases operand with ⟨named, namedFound, _⟩
      exact added.nameable grows namedFound (plain reference (by simp) named namedFound)
  | storeField reference | loadFieldAddress reference =>
      rcases operand with ⟨field, fieldFound, _⟩
      exact added.owner_ne_grown valid grows fieldFound
  | _ => trivial

theorem Dispatcher.Added.copyDecl?_discreet (valid : Valid module) (grows : Grows module after)
    (unnamed : NamesNoInitializer module) {owner : TypeId} {name : String} {copy : RoutineDecl}
    {body : Body} (isCopy : copyDecl? markers module owner name = some copy)
    (hasBody : copy.body = some body) :
    ∀ instruction ∈ body.instructions.toList, Discreet dispatcher after instruction := by
  rcases copyDecl?_eq_some_iff.mp isCopy with ⟨_, _, original, _, found, bodied, rfl⟩
  cases hasBody
  exact added.discreet valid grows unnamed found bodied

theorem Dispatcher.Added.unloadDecl?_discreet (grows : Grows module after)
    (sound : candidate.Sound module) {name : String} {arity : Nat} {unload : RoutineDecl}
    {body : Body} (isUnload : unloadDecl? markers name arity candidate = some unload)
    (hasBody : unload.body = some body) :
    ∀ instruction ∈ body.instructions.toList, Discreet dispatcher after instruction := by
  simp only [unloadDecl?, Option.ite_none_left_eq_some, Option.some.injEq] at isUnload
  rcases isUnload with ⟨_, rfl⟩
  cases hasBody
  apply discreet_straightLine
  intro instruction listed
  rcases List.mem_map.mp listed with ⟨teardown, isTeardown, rfl⟩
  rcases sound.teardowns teardown isTeardown with ⟨routine, found, fit, _⟩
  simp only [Survey.isTeardown, Bool.and_eq_true, Bool.not_eq_true'] at fit
  exact added.nameable grows found fit.1.2

theorem Dispatcher.Added.type_apart (sound : candidate.Sound module) :
    candidate.type ≠ dispatcher.type := by
  rcases sound.declared with ⟨type, declared⟩
  have inside := position_lt_of_type? declared
  rw [Ne, ← TypeId.position_inj, added.type_position]
  omega

theorem Dispatcher.Added.actions_apart : dispatcher.actions .unload ≠ dispatcher.actions .load := by
  have unload := added.unloadActions_position
  have load := added.loadActions_position
  simp only [Dispatcher.actions, Ne, ← FieldId.position_inj]
  omega

theorem Dispatcher.Added.registrars_apart :
    dispatcher.registrar .unload ≠ dispatcher.registrar .load := by
  have unload := added.registerUnload_position
  have load := added.registerLoad_position
  simp only [Dispatcher.registrar, Ne, ← RoutineId.position_inj]
  omega

end Discreet

/-- A field is reset without writing to a dispatcher that does not own it. -/
theorem resetsOf_discreet (grows : Grows module after) (sound : candidate.Sound module)
    (apart : candidate.type ≠ dispatcher.type) (arity : Nat) :
    ∀ instruction ∈ resetsOf module arity candidate, Discreet dispatcher after instruction := by
  intro instruction listed
  rcases List.mem_flatten.mp listed with ⟨piece, isPiece, inPiece⟩
  rcases List.mem_map.mp isPiece with ⟨field, isField, rfl⟩
  rcases sound.fields field isField with ⟨declared, found, _, owns⟩
  simp only [resetOf, found, List.mem_cons, List.not_mem_nil, or_false] at inPiece
  rcases inPiece with rfl | rfl
  · intro other otherFound
    simp only [ownField, grows.fields _ declared found, Option.some.injEq] at otherFound
    rw [← otherFound, owns]
    exact apart
  · trivial

theorem loadDecl?_discreet (grows : Grows module after) (sound : candidate.Sound module)
    (apart : candidate.type ≠ dispatcher.type) {copy? : Option RoutineId}
    (nameable : ∀ copy, copy? = some copy → Nameable dispatcher after copy) {name : String}
    {arity : Nat} {load : RoutineDecl} {body : Body}
    (isLoad : loadDecl? markers module name arity candidate copy? = some load)
    (hasBody : load.body = some body) :
    ∀ instruction ∈ body.instructions.toList, Discreet dispatcher after instruction := by
  simp only [loadDecl?, Option.ite_none_left_eq_some, Option.some.injEq] at isLoad
  rcases isLoad with ⟨_, rfl⟩
  cases hasBody
  apply discreet_straightLine
  intro instruction listed
  rcases List.mem_append.mp listed with reset | call
  · exact resetsOf_discreet grows sound apart arity instruction reset
  · cases copy? with
    | none => cases call
    | some copy =>
        rw [ownCall, List.mem_singleton] at call
        rw [call]
        exact nameable copy rfl

/-- The body of a routine that stands as it was declared is the one it was declared with. -/
theorem Stands.declares {owner : TypeId} {routine? : Option RoutineDecl} {id? : Option RoutineId}
    (stands : Stands after owner routine? id?) {id : RoutineId} (present : id? = some id)
    {routine : RoutineDecl} {body : Body} (found : after.routine? id = some routine)
    (hasBody : routine.body = some body) :
    ∃ declared, routine? = some declared ∧ declared.body = some body := by
  subst present
  rcases stands.some_iff with ⟨declared, isDeclared, isFound⟩
  rw [found] at isFound
  cases isFound
  exact ⟨declared, isDeclared, hasBody⟩

/-- What was added to a hooked type is discreet. -/
theorem Installed.discreet
    (installed : Installed markers dispatcher module candidate type after hook)
    (added : Dispatcher.Added markers module dispatched dispatcher) (valid : Valid module)
    (grows : Grows module after) (unnamed : NamesNoInitializer module)
    (sound : candidate.Sound module)
    (nameable : ∀ id, some id ∈ hook.added → Nameable dispatcher after id) {id : RoutineId}
    {routine : RoutineDecl} {body : Body} (isAdded : some id ∈ hook.added)
    (found : after.routine? id = some routine) (hasBody : routine.body = some body) :
    ∀ instruction ∈ body.instructions.toList, Discreet dispatcher after instruction := by
  rcases Hook.mem_added.mp isAdded with copies | loads | unloads
  · rcases installed.copy.declares copies found hasBody with ⟨_, isCopy, hasBody⟩
    exact added.copyDecl?_discreet valid grows unnamed isCopy hasBody
  · rcases installed.load.declares loads found hasBody with ⟨_, isLoad, hasBody⟩
    refine loadDecl?_discreet grows sound (added.type_apart sound) ?_ isLoad hasBody
    intro copy copies
    exact nameable copy (Hook.mem_added.mpr (.inl copies))
  · rcases installed.unload.declares unloads found hasBody with ⟨_, isUnload, hasBody⟩
    exact added.unloadDecl?_discreet grows sound isUnload hasBody

/-! ### The initializers of hooked types -/

section Wrapper

variable {owner : TypeId} {routine : RoutineDecl}

/-- A type is bound from inside with as many parameters as it has only if they can all be named. -/
theorem small_of_ownBinding (declared : module.type? owner = some type)
    (fits : BindingFits module type.arity owner (ownBinding type.arity)) : type.arity ≤ 65535 := by
  rcases fits with ⟨other, otherDeclared, right, _⟩
  rw [declared] at otherDeclared
  cases otherDeclared
  unfold ownBinding at right
  split at right
  · omega
  · simp only [bindingFits, Bool.and_eq_true, beq_iff_eq] at right
    have whole := right.2
    simp only [ownParameters, List.length_map, List.length_range] at whole
    omega

theorem mem_wrapperLine (arity : Nat) (dispatcher : Dispatcher) {id : RoutineId}
    (added : some id ∈ hook.added) :
    ∃ instruction ∈ wrapperLine arity dispatcher hook.initializerCopy hook.load hook.unload,
      instruction = .call (ownRoutine arity id) ∨
        instruction = .loadRoutine (ownRoutine arity id) := by
  rcases Hook.mem_added.mp added with present | present | present
  · exact ⟨.call (ownRoutine arity id), by simp [wrapperLine, present, ownCall], .inl rfl⟩
  · exact ⟨.loadRoutine (ownRoutine arity id), by simp [wrapperLine, present, registration],
      .inr rfl⟩
  · exact ⟨.loadRoutine (ownRoutine arity id), by simp [wrapperLine, present, registration],
      .inr rfl⟩

theorem small_of_wrapper (declared : module.type? owner = some type)
    (callable : AllCallable module owner hook.added)
    (fits : BodyFits module type.arity routine (wrapperBody type.arity dispatcher hook))
    {id : RoutineId} (added : some id ∈ hook.added) : type.arity ≤ 65535 := by
  rcases mem_wrapperLine type.arity dispatcher added with
    ⟨instruction, listed, named⟩
  have operand := (fits.instructions instruction (List.mem_append_left _ listed)).operand
  have reference : RoutineRefFits module type.arity (ownRoutine type.arity id) := by
    rcases named with rfl | rfl <;> exact operand
  rcases reference with ⟨found, isFound, _, _, binding⟩
  rcases callable _ added id rfl with ⟨routine, calls, owns⟩
  have same := calls.declared.symm.trans isFound
  cases same
  rw [owns] at binding
  exact small_of_ownBinding declared binding

theorem wrapperLine_level (declared : module.type? owner = some type)
    (callable : AllCallable module owner hook.added) (registrars : Registrars module dispatcher)
    (small : ∀ id, some id ∈ hook.added → type.arity ≤ 65535) :
    heightAfter module
        (wrapperLine type.arity dispatcher hook.initializerCopy hook.load hook.unload) 0 =
      some 0 := by
  by_cases nothing : ∃ id, some id ∈ hook.added
  · rcases nothing with ⟨id, added⟩
    exact (wrapperLine_fits declared (small id added) callable registrars).level
  · have absent {id? : Option RoutineId} (listed : id? ∈ hook.added) : id? = none := by
      cases id? with
      | none => rfl
      | some id => exact absurd ⟨id, listed⟩ nothing
    rw [absent (by simp [Hook.added] : hook.initializerCopy ∈ hook.added),
      absent (by simp [Hook.added] : hook.load ∈ hook.added),
      absent (by simp [Hook.added] : hook.unload ∈ hook.added)]
    rfl

end Wrapper

theorem Installed.callable
    (installed : Installed markers dispatcher module candidate type after hook) :
    AllCallable after hook.type hook.added := by
  rintro _ listed id rfl
  rcases installed.added id listed with ⟨routine, calls, owns, _⟩
  exact ⟨routine, calls, owns.trans installed.type_eq.symm⟩

/-- The initializer of a hooked type of a valid module returns nothing, and its type has no more
parameters than can be named. -/
theorem Installed.wrapped
    (installed : Installed markers dispatcher module candidate type after hook)
    (valid : Valid after) (registrars : Registrars after dispatcher) :
    ∃ type routine, Wrapped dispatcher after hook type routine := by
  have callable := installed.callable
  rcases installed.declared with ⟨routines, declared⟩
  rcases installed.wrapper with ⟨routine, _, found⟩
  have initializer_eq := installed.initializer_eq
  rw [← installed.type_eq] at declared initializer_eq
  have owner_eq := (owned_of_initializer valid.members initializer_eq found).2
  rcases valid.routines _ _ found with ⟨owner, ownerDeclared, _, _, bodies⟩
  rw [owner_eq, declared] at ownerDeclared
  cases ownerDeclared
  have fits := bodies _ rfl
  have small : ∀ id, some id ∈ hook.added → ({ type with routines } : TypeDecl).arity ≤ 65535 :=
    fun _ added => small_of_wrapper declared callable fits added
  rcases fits.balanced with ⟨heights, balanced⟩
  have level := wrapperLine_level declared callable registrars small
  exact ⟨_, _, declared, initializer_eq, found, rfl, Hook.straightLine_silent level balanced, small⟩

/-! ### The module as a whole -/

theorem Spared.registers {owner : TypeId} (spared : Spared owner module after)
    {routine : RoutineId} {field : FieldId}
    (registers : Machine.Registers module owner routine field) :
    Machine.Registers after owner routine field := by
  rcases registers with
    ⟨⟨markers, name, routineFound⟩, ⟨fieldName, fieldFound⟩, ⟨type, declared, listed⟩, absent⟩
  refine ⟨⟨markers, name, ?_⟩, ⟨fieldName, ?_⟩, ⟨type, ?_, listed⟩, ?_⟩
  · exact spared.routines _ _ routineFound rfl
  · exact spared.grows.fields _ _ fieldFound
  · exact spared.type?_eq.trans declared
  · exact spared.initializer_eq.trans absent

theorem Dispatcher.Added.registers (added : Dispatcher.Added markers module after dispatcher)
    (occasion : Occasion) : Machine.Registers after dispatcher.type (dispatcher.registrar occasion)
      (dispatcher.actions occasion) := by
  cases occasion with
  | unload => exact Machine.registers_unload added
  | load => exact Machine.registers_load added

/-- What a module that was made reloadable consists of, but for its hooked types: the dispatcher as
it was added, and everything else. -/
theorem Made.spared {instrumented : Instrumented}
    (made : Made markers module candidates instrumented) : ∃ dispatched,
    Dispatcher.Added markers module dispatched instrumented.dispatcher ∧
      HookedEach markers instrumented.dispatcher dispatched candidates instrumented.module
        instrumented.hooks ∧
      Spared instrumented.dispatcher.type dispatched instrumented.module := by
  rcases made.dispatched with ⟨dispatched, added, hooked⟩
  refine ⟨dispatched, added, hooked, hooked.spared (added.membersOwned made.valid.members) ?_⟩
  intro candidate listed same
  exact added.type_apart (made.sound candidate listed) same.symm

/-- A module that was made reloadable is wired, if it is valid and nothing in the module that it
came from names an initializer. -/
theorem Made.wired {instrumented : Instrumented}
    (made : Made markers module candidates instrumented) (valid : Valid instrumented.module)
    (unnamed : NamesNoInitializer module) :
    Wired instrumented.module instrumented.dispatcher instrumented.hooks := by
  have installed := made.installed
  have grows := made.grows
  rcases made.spared with ⟨dispatched, added, hooked, spared⟩
  have apart : ∀ candidate ∈ candidates, candidate.type ≠ instrumented.dispatcher.type :=
    fun candidate listed => added.type_apart (made.sound candidate listed)
  have registers := fun occasion => spared.registers (added.registers occasion)
  have registrars := added.registrars.grow spared.grows
  have nameable : ∀ hook ∈ instrumented.hooks, ∀ id, some id ∈ hook.added →
      Nameable instrumented.dispatcher instrumented.module id := by
    intro hook listed
    rcases installed.of_hook listed with ⟨candidate, isCandidate, type, _, installed⟩
    exact installed.nameable (fun occasion => ⟨_, registers occasion⟩) (apart candidate isCandidate)
  refine ⟨valid, registers, ?_, added.actions_apart, added.registrars_apart, ?_, ?_, ?_, ?_,
    nameable, ?_⟩
  · intro type declared
    rw [spared.type?_eq, added.type?_type] at declared
    cases declared
    rfl
  · intro hook listed
    rcases installed.of_hook listed with ⟨candidate, isCandidate, type, _, installed⟩
    rw [installed.type_eq]
    exact apart candidate isCandidate
  · rw [installed.types_eq]
    exact made.distinct
  · intro hook listed
    rcases installed.of_hook listed with ⟨candidate, isCandidate, type, _, installed⟩
    exact installed.wrapped valid registrars
  · intro hook listed
    rcases installed.of_hook listed with ⟨candidate, isCandidate, type, _, installed⟩
    exact installed.callable
  · intro id routine body found hasBody
    rcases hooked.origin found with ⟨hook, listed, same | isAdded⟩ | before
    · exact .wrapper listed same
    · rcases installed.of_hook listed with ⟨candidate, isCandidate, type, _, installed⟩
      exact .discreet (installed.discreet added made.valid grows unnamed
        (made.sound candidate isCandidate) (nameable hook listed) isAdded found hasBody)
    · rcases added.origin before with original | ⟨occasion, same⟩ | ⟨occasion, name, rfl⟩
      · exact .discreet (added.discreet made.valid grows unnamed original hasBody)
      · exact .registrar same
      · cases hasBody
        exact .discreet (discreet_invokeBody _)

/-- What is to be called on different occasions is kept in different fields. -/
theorem Dispatcher.actions_ne (fields : dispatcher.actions .unload ≠ dispatcher.actions .load)
    {occasion other : Occasion} (apart : occasion ≠ other) :
    dispatcher.actions occasion ≠ dispatcher.actions other := by
  cases occasion with
  | unload =>
      cases other with
      | unload => exact absurd rfl apart
      | load => exact fields
  | load =>
      cases other with
      | unload => exact fields.symm
      | load => exact absurd rfl apart

/-! ### The routines of hooked types -/

namespace Wired

variable (wired : Wired module dispatcher hooks)
include wired

theorem initializer_declared (listed : hook ∈ hooks) :
    module.initializer hook.type = .ok (some hook.initializer) ∧
      ∃ routine, module.routine? hook.initializer = some routine ∧
        routine.isInitializer = true ∧ routine.owner = hook.type := by
  rcases wired.wrapped hook listed with ⟨type, routine, wrapped⟩
  have found := wrapped.initializer_eq
  exact ⟨found, exists_of_initializer wired.valid.members found⟩

theorem initializer_ne (listed : hook ∈ hooks) (occasion : Occasion) :
    hook.initializer ≠ dispatcher.registrar occasion := by
  intro same
  rcases wired.initializer_declared listed with ⟨_, routine, found, _, owner_eq⟩
  rcases (wired.registers occasion).routine_declared with ⟨_, _, declared⟩
  rw [same, declared] at found
  cases found
  exact wired.apart hook listed owner_eq.symm

/-- What may be named is not the initializer of a hooked type. -/
theorem nameable_ne {id : RoutineId} (nameable : Nameable dispatcher module id)
    (listed : hook ∈ hooks) : id ≠ hook.initializer := by
  rintro rfl
  rcases wired.initializer_declared listed with ⟨_, routine, found, isInitializer, _⟩
  rcases nameable.declared with ⟨other, otherFound, plain⟩
  rw [found] at otherFound
  cases otherFound
  rw [isInitializer] at plain
  cases plain

theorem routine_declared (listed : hook ∈ hooks) {occasion : Occasion} {id : RoutineId}
    (isRoutine : hook.routine occasion = some id) :
    some id ∈ hook.added ∧ ∃ routine, module.routine? id = some routine ∧
      routine.owner = hook.type := by
  have added : some id ∈ hook.added := by
    cases occasion with
    | unload => exact Hook.mem_added.mpr (.inr (.inr isRoutine))
    | load => exact Hook.mem_added.mpr (.inr (.inl isRoutine))
  rcases wired.callable hook listed _ added id rfl with ⟨routine, calls, owns⟩
  exact ⟨added, routine, calls.declared, owns⟩

/-- A routine belongs to one hook. -/
theorem hook_eq {other : Hook} (listed : hook ∈ hooks) (otherListed : other ∈ hooks)
    {occasion : Occasion} {id : RoutineId} (isRoutine : hook.routine occasion = some id)
    (isOther : other.routine occasion = some id) : other = hook := by
  rcases (wired.routine_declared listed isRoutine).2 with ⟨routine, found, owns⟩
  rcases (wired.routine_declared otherListed isOther).2 with ⟨otherRoutine, otherFound, otherOwns⟩
  rw [found] at otherFound
  cases otherFound
  exact List.inj_on_of_nodup_map wired.distinct otherListed listed (otherOwns.symm.trans owns)

end Wired

end Rekindle.Reload
