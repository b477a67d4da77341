import Rekindle.Proofs.Registry.Wiring
import Rekindle.Proofs.Reload.Keeping

/-!
# What making a module reloadable touches

Hooking a type appends routines to it and gives its initializer another body. Everything else of the
module is what it was: a type that is not hooked, a field and any other routine are found at their
handles as they were declared. What is new belongs to the dispatcher or to a hooked type.
-/

namespace Rekindle.Reload

open Fallible Validity Rekindle.Module

variable {markers : Markers} {module middle after : Module} {dispatcher : Dispatcher}
  {owner : TypeId} {owners more : List TypeId}

/-! ### Routines that types receive -/

/-- A routine that a module has received for a type. -/
structure Received (module after : Module) (owner : TypeId) (id : RoutineId) : Prop where
  fresh : module.routine? id = none
  declared : ∃ routine, after.routine? id = some routine ∧ routine.owner = owner

/-- A module in which types of a list have received routines, and otherwise at most bodies have
changed. -/
structure Extended (owners : List TypeId) (module after : Module) : Prop where
  grows : Grows module after
  types : ∀ id type, module.type? id = some type → ∃ received,
    after.type? id = some { type with routines := type.routines ++ received } ∧
      (id ∉ owners → received = []) ∧ ∀ routine ∈ received, Received module after id routine
  listed : ∀ id routine, after.routine? id = some routine → module.routine? id = none →
    routine.owner ∈ owners ∧
      ∃ type, after.type? routine.owner = some type ∧ id ∈ type.routines
  typeCount : after.types.size = module.types.size
  fields_eq : after.fields = module.fields
  topLevel_eq : after.topLevel = module.topLevel

theorem Received.grow {id : RoutineId} (received : Received module middle owner id)
    (grows : Grows middle after) : Received module after owner id := by
  rcases received.declared with ⟨routine, found, owner_eq⟩
  rcases grows.routines id routine found with ⟨body, kept, _⟩
  exact ⟨received.fresh, _, kept, owner_eq⟩

theorem Received.since {id : RoutineId} (received : Received middle after owner id)
    (grows : Grows module middle) : Received module after owner id := by
  refine ⟨?_, received.declared⟩
  rcases found : module.routine? id with _ | routine
  · rfl
  · rcases grows.routines id routine found with ⟨body, kept, _⟩
    rw [received.fresh] at kept
    cases kept

namespace Extended

theorem refl (module : Module) : Extended [] module module where
  grows := .refl module
  types := fun id type found =>
    ⟨[], by rw [found, List.append_nil], fun _ => rfl, List.forall_mem_nil _⟩
  listed := by
    intro id routine found absent
    rw [found] at absent
    cases absent
  typeCount := rfl
  fields_eq := rfl
  topLevel_eq := rfl

theorem trans (first : Extended owners module middle) (second : Extended more middle after) :
    Extended (owners ++ more) module after where
  grows := first.grows.trans second.grows
  types := by
    intro id type found
    rcases first.types id type found with ⟨early, between, earlyOnly, earlyReceived⟩
    rcases second.types id _ between with ⟨late, last, lateOnly, lateReceived⟩
    refine ⟨early ++ late, ?_, ?_, ?_⟩
    · rw [last, List.append_assoc]
    · intro apart
      rw [List.mem_append, not_or] at apart
      rw [earlyOnly apart.1, lateOnly apart.2, List.append_nil]
    · intro routine received
      rcases List.mem_append.mp received with inFirst | inSecond
      · exact (earlyReceived routine inFirst).grow second.grows
      · exact (lateReceived routine inSecond).since first.grows
  listed := by
    intro id routine found absent
    rcases between : middle.routine? id with _ | earlier
    · rcases second.listed id routine found between with ⟨owned, listed⟩
      exact ⟨List.mem_append_right _ owned, listed⟩
    · rcases second.grows.routines id earlier between with ⟨body, kept, _⟩
      rw [found] at kept
      cases kept
      rcases first.listed id earlier between absent with ⟨owned, type, declared, listed⟩
      rcases second.types _ type declared with ⟨late, last, _, _⟩
      exact ⟨List.mem_append_left _ owned, _, last, List.mem_append_left _ listed⟩
  typeCount := second.typeCount.trans first.typeCount
  fields_eq := second.fields_eq.trans first.fields_eq
  topLevel_eq := second.topLevel_eq.trans first.topLevel_eq

theorem mono (extended : Extended owners module after) (subset : ∀ id ∈ owners, id ∈ more) :
    Extended more module after where
  grows := extended.grows
  types := by
    intro id type found
    rcases extended.types id type found with ⟨received, kept, only, all⟩
    exact ⟨received, kept, fun apart => only fun listed => apart (subset id listed), all⟩
  listed := by
    intro id routine found absent
    rcases extended.listed id routine found absent with ⟨owned, listed⟩
    exact ⟨subset _ owned, listed⟩
  typeCount := extended.typeCount
  fields_eq := extended.fields_eq
  topLevel_eq := extended.topLevel_eq

end Extended

/-! ### Steps of hooking -/

theorem extended_of_added {routine : RoutineDecl} {id : RoutineId} {type : TypeDecl}
    (added : RoutineAdded module after owner routine id)
    (declared : module.type? owner = some type) : Extended [owner] module after := by
  have fresh : module.routine? id = none := by
    rcases found : module.routine? id with _ | other
    · rfl
    · have inside := position_lt_of_routine? found
      have last := added.position_eq
      omega
  have ownerAfter := added.type?_eq owner
  rw [if_pos rfl, declared] at ownerAfter
  have idAfter := added.routine?_eq id
  rw [if_pos rfl] at idAfter
  refine ⟨added.grows, ?_, ?_, added.typeCount, added.fields_eq, added.topLevel_eq⟩
  · intro other otherType found
    by_cases same : other = owner
    · subst same
      rw [declared] at found
      cases found
      refine ⟨[id], ownerAfter, fun apart => absurd List.mem_cons_self apart, ?_⟩
      intro routineId received
      rw [List.mem_singleton.mp received]
      exact ⟨fresh, _, idAfter, rfl⟩
    · refine ⟨[], ?_, fun _ => rfl, List.forall_mem_nil _⟩
      rw [added.type?_eq, if_neg same, found, List.append_nil]
  · intro other routineAfter found absent
    rw [added.routine?_eq] at found
    split at found
    · rename_i same
      cases found
      refine ⟨List.mem_cons_self, _, ownerAfter, ?_⟩
      rw [same]
      exact List.mem_append_right _ List.mem_cons_self
    · rw [found] at absent
      cases absent

theorem Appended.extended {routine? : Option RoutineDecl} {id? : Option RoutineId}
    {type : TypeDecl} (appended : Appended module owner after routine? id?)
    (declared : module.type? owner = some type) : Extended [owner] module after := by
  cases appended with
  | nothing => exact (Extended.refl module).mono (List.forall_mem_nil _)
  | routine addition => exact extended_of_added addition declared

theorem extended_of_changed {id : RoutineId} {routine : RoutineDecl} {body : Body}
    (declared : module.routine? id = some routine)
    (changed : RoutineChanged module after id { routine with body := some body }) :
    Extended [] module after := by
  refine ⟨changed.grows declared, ?_, ?_, ?_, changed.fields_eq, changed.topLevel_eq⟩
  · intro other type found
    refine ⟨[], ?_, fun _ => rfl, List.forall_mem_nil _⟩
    rw [type?, changed.types_eq, ← type?, found, List.append_nil]
  · intro other otherRoutine found absent
    rw [changed.routine?_eq] at found
    split at found
    · rename_i same
      rw [same, declared] at absent
      cases absent
    · rw [found] at absent
      cases absent
  · rw [changed.types_eq]

section Hooks

variable {candidate : Candidate} {type : TypeDecl} {hook : Hook} {candidates : List Candidate}
  {hooks : List Hook}

/-- Hooking a type appends routines to it and changes at most a body otherwise. -/
theorem Hooked.extended (hooked : Hooked markers dispatcher module candidate type after hook)
    (declared : module.type? candidate.type = some type) :
    Extended [candidate.type] module after := by
  cases hooked with
  | intro type_eq copy unload load ensure isInitializer found rewire =>
      rcases copy.type?_owner declared with ⟨_, copied⟩
      rcases unload.type?_owner copied with ⟨_, unloaded⟩
      rcases load.type?_owner unloaded with ⟨_, loaded⟩
      have all := (((copy.extended declared).trans (unload.extended copied)).trans
        (load.extended unloaded)).trans (ensure.extended loaded)
      refine (all.trans (extended_of_changed found rewire)).mono ?_
      simp

/-- Hooking candidates one after the other extends their types only. -/
theorem HookedEach.extended
    (hooked : HookedEach markers dispatcher module candidates after hooks) :
    Extended (candidates.map (·.type)) module after := by
  induction hooked with
  | nil => exact .refl _
  | cons declared first others ih => exact (first.extended declared).trans ih

/-- Only the initializers of the hooked types change. -/
theorem HookedEach.routine?_of_ne
    (hooked : HookedEach markers dispatcher module candidates after hooks) {id : RoutineId}
    {routine : RoutineDecl} (found : module.routine? id = some routine)
    (apart : ∀ hook ∈ hooks, id ≠ hook.initializer) : after.routine? id = some routine := by
  induction hooked with
  | nil => exact found
  | cons declared first others ih =>
      rcases List.forall_mem_cons.mp apart with ⟨here, later⟩
      exact ih (first.routine?_of_ne found here) later

theorem HookedEach.types_eq
    (hooked : HookedEach markers dispatcher module candidates after hooks) :
    hooks.map (·.type) = candidates.map (·.type) := by
  induction hooked with
  | nil => rfl
  | cons declared first others ih =>
      cases first with
      | intro type_eq => rw [List.map_cons, List.map_cons, ih, type_eq]

/-- The initializer of a hooked type is the one it had, or a routine that was not there before. -/
theorem HookedEach.initializer_before
    (hooked : HookedEach markers dispatcher module candidates after hooks)
    (owned : MembersOwned module) (distinct : (candidates.map (·.type)).Nodup) :
    ∀ hook ∈ hooks, module.initializer hook.type = .ok (some hook.initializer) ∨
      module.routine? hook.initializer = none := by
  induction hooked with
  | nil => exact List.forall_mem_nil _
  | @cons module middle after candidate candidates type hook hooks declared first others ih =>
      rcases List.nodup_cons.mp distinct with ⟨fresh, later⟩
      refine List.forall_mem_cons.mpr ⟨?_, ?_⟩
      · have type_eq : hook.type = candidate.type := by
          cases first with
          | intro type_eq => exact type_eq
        rw [type_eq]
        exact first.isInitializer.imp_right And.right
      · intro other listed
        have apart : other.type ≠ candidate.type := by
          intro same
          have hooked := List.mem_map_of_mem (f := (·.type)) listed
          rw [others.types_eq, same] at hooked
          exact fresh hooked
        -- Hooking the first type has left the initializers of all others.
        rcases ih (first.membersOwned owned) later other listed with had | absent
        · left
          rw [← (first.spared owned apart).initializer_eq]
          exact had
        · right
          rcases found : module.routine? other.initializer with _ | routine
          · rfl
          · rcases first.grows.routines _ routine found with ⟨body, kept, _⟩
            rw [absent] at kept
            cases kept

end Hooks

/-! ### The dispatcher -/

section Dispatcher

variable (added : Dispatcher.Added markers module after dispatcher)
include added

/-- The fields that come with the dispatcher are its two slots. -/
theorem Dispatcher.Added.newField {id : FieldId} {field : FieldDecl}
    (found : after.field? id = some field) (fresh : module.field? id = none) :
    (id = dispatcher.unloadActions ∨ id = dispatcher.loadActions) ∧
      field.owner = dispatcher.type := by
  rw [added.field?_eq] at found
  unfold Dispatcher.fieldDecl? at found
  split_ifs at found with load unload
  · cases found
    exact ⟨.inr load, rfl⟩
  · cases found
    exact ⟨.inl unload, rfl⟩
  · rw [fresh] at found
    cases found

/-- The routines that come with the dispatcher belong to it. -/
theorem Dispatcher.Added.newRoutine {id : RoutineId} {routine : RoutineDecl}
    (found : after.routine? id = some routine) (fresh : module.routine? id = none) :
    routine.owner = dispatcher.type ∧ id ∈ (dispatcher.completeType markers).routines := by
  rw [added.routine?_eq] at found
  unfold Dispatcher.routineDecl? at found
  split_ifs at found with load unload registerLoad registerUnload
  · cases found
    exact ⟨rfl, by simp [Dispatcher.completeType, load]⟩
  · cases found
    exact ⟨rfl, by simp [Dispatcher.completeType, unload]⟩
  · cases found
    exact ⟨rfl, by simp [Dispatcher.completeType, registerLoad]⟩
  · cases found
    exact ⟨rfl, by simp [Dispatcher.completeType, registerUnload]⟩
  · rw [fresh] at found
    cases found

end Dispatcher

/-! ### The module as a whole -/

/-- A module that differs from another by a dispatcher and by hooked types only. -/
structure Touches (markers : Markers) (module : Module) (instrumented : Instrumented) : Prop where
  name_eq : instrumented.module.name = module.name
  identity_eq : instrumented.module.identity = module.identity
  references_eq : instrumented.module.references = module.references
  /-- A field is what it was. -/
  fields : ∀ id field, module.field? id = some field → instrumented.module.field? id = some field
  /-- A type is what it was, but a hooked type has received routines. -/
  types : ∀ id type, module.type? id = some type → ∃ received,
    instrumented.module.type? id = some { type with routines := type.routines ++ received } ∧
      ((∀ hook ∈ instrumented.hooks, hook.type ≠ id) → received = []) ∧
      ∀ routine ∈ received, Received module instrumented.module id routine
  /-- A routine is what it was, unless it is the initializer of a hooked type. -/
  routines : ∀ id routine, module.routine? id = some routine →
    (∀ hook ∈ instrumented.hooks, module.initializer hook.type ≠ .ok (some id)) →
      instrumented.module.routine? id = some routine
  /-- The initializer of a hooked type has another body. -/
  initializers : ∀ hook ∈ instrumented.hooks, ∀ id routine,
    module.initializer hook.type = .ok (some id) → module.routine? id = some routine →
      id = hook.initializer ∧ ∃ type, module.type? hook.type = some type ∧
        instrumented.module.routine? id = some { routine with
          body := some (wrapperBody type.arity instrumented.dispatcher hook) }
  /-- The dispatcher is the one new type, after all others and at the top level. -/
  typeCount : instrumented.module.types.size = module.types.size + 1
  dispatcher_last : instrumented.dispatcher.type.position = module.types.size
  dispatcher_declared : instrumented.module.type? instrumented.dispatcher.type =
    some (instrumented.dispatcher.completeType markers)
  topLevel_eq : instrumented.module.topLevel = module.topLevel ++ [instrumented.dispatcher.type]
  /-- The two fields of the dispatcher are the only new ones. -/
  fieldCount : instrumented.module.fields.size = module.fields.size + 2
  newFields : ∀ id field, instrumented.module.field? id = some field → module.field? id = none →
    (id = instrumented.dispatcher.unloadActions ∨ id = instrumented.dispatcher.loadActions) ∧
      field.owner = instrumented.dispatcher.type
  /-- A new routine is one of the dispatcher's, or one that a hooked type has received. -/
  newRoutines : ∀ id routine, instrumented.module.routine? id = some routine →
    module.routine? id = none →
      (routine.owner = instrumented.dispatcher.type ∨
        ∃ hook ∈ instrumented.hooks, routine.owner = hook.type) ∧
      ∃ type, instrumented.module.type? routine.owner = some type ∧ id ∈ type.routines

section Made

variable {candidates : List Candidate} {instrumented : Instrumented}
  (made : Made markers module candidates instrumented)
include made

/-- A routine that was there is the initializer of a hooked type only if it was before. -/
theorem Made.ne_initializer {id : RoutineId} {routine : RoutineDecl}
    (found : module.routine? id = some routine)
    (apart : ∀ hook ∈ instrumented.hooks, module.initializer hook.type ≠ .ok (some id)) :
    ∀ hook ∈ instrumented.hooks, id ≠ hook.initializer := by
  rintro hook listed rfl
  rcases made.dispatched with ⟨dispatched, added, hooked⟩
  have owned := made.valid.members
  rcases hooked.initializer_before (added.membersOwned owned) made.distinct hook listed with
    had | absent
  · rcases made.installed.of_hook listed with ⟨candidate, _, type, declared, installed⟩
    apply apart hook listed
    rw [installed.type_eq] at had ⊢
    rw [← (added.spared owned declared).initializer_eq]
    exact had
  · rw [added.routine?_of_declared found] at absent
    cases absent

/-- The initializer that a hooked type had is what it was but for its body. -/
theorem Made.initializer_changed {hook : Hook} (listed : hook ∈ instrumented.hooks)
    {id : RoutineId} {routine : RoutineDecl} (had : module.initializer hook.type = .ok (some id))
    (found : module.routine? id = some routine) :
    id = hook.initializer ∧ ∃ type, module.type? hook.type = some type ∧
      instrumented.module.routine? id = some { routine with
        body := some (wrapperBody type.arity instrumented.dispatcher hook) } := by
  rcases made.installed.of_hook listed with ⟨candidate, _, type, declared, installed⟩
  rw [installed.type_eq] at had ⊢
  rcases installed.wrapper with ⟨before, wrapper, wrapped⟩
  cases wrapper with
  | kept isInitializer beforeFound =>
      rw [had] at isInitializer
      cases isInitializer
      rw [found] at beforeFound
      cases beforeFound
      exact ⟨rfl, type, declared, wrapped⟩
  | made absent =>
      rw [had] at absent
      cases absent

theorem Made.touches (keeps : Keeps module instrumented.module) :
    Touches markers module instrumented := by
  rcases made.dispatched with ⟨dispatched, added, hooked⟩
  have extended := hooked.extended
  have types_eq := hooked.types_eq
  have hook_of_mem : ∀ id ∈ candidates.map (·.type), ∃ hook ∈ instrumented.hooks,
      hook.type = id := by
    intro id listed
    rw [← types_eq] at listed
    exact List.mem_map.mp listed
  refine ⟨keeps.name, keeps.identity, keeps.references, made.grows.fields, ?_, ?_, ?_,
    extended.typeCount.trans added.typeCount, added.type_position, ?_,
    extended.topLevel_eq.trans added.topLevel_eq, ?_, ?_, ?_⟩
  · intro id type found
    rcases extended.types id type (added.type?_of_declared found) with ⟨received, kept, only, all⟩
    refine ⟨received, kept, ?_, fun routine listed => (all routine listed).since added.grows⟩
    intro apart
    apply only
    intro listed
    rcases hook_of_mem id listed with ⟨hook, hookListed, same⟩
    exact apart hook hookListed same
  · intro id routine found apart
    exact hooked.routine?_of_ne (added.routine?_of_declared found)
      (made.ne_initializer found apart)
  · intro hook listed id routine had found
    exact made.initializer_changed listed had found
  · rcases extended.types _ _ added.type?_type with ⟨received, kept, only, _⟩
    rw [kept, only, List.append_nil]
    intro listed
    rcases List.mem_map.mp listed with ⟨candidate, candidateListed, same⟩
    exact added.type_apart (made.sound candidate candidateListed) same
  · rw [extended.fields_eq]
    exact added.fieldCount
  · intro id field found fresh
    rw [field?, extended.fields_eq, ← field?] at found
    exact added.newField found fresh
  · intro id routine found fresh
    rcases between : dispatched.routine? id with _ | earlier
    · rcases extended.listed id routine found between with ⟨owned, listed⟩
      rcases hook_of_mem _ owned with ⟨hook, hookListed, same⟩
      exact ⟨.inr ⟨hook, hookListed, same.symm⟩, listed⟩
    · rcases extended.grows.routines id earlier between with ⟨body, kept, _⟩
      rw [found] at kept
      cases kept
      rcases added.newRoutine between fresh with ⟨owner_eq, listed⟩
      rcases extended.types _ _ added.type?_type with ⟨received, last, _, _⟩
      refine ⟨.inl owner_eq, { instrumented.dispatcher.completeType markers with
        routines := _ ++ received }, ?_, List.mem_append_left received listed⟩
      rw [show earlier.owner = instrumented.dispatcher.type from owner_eq]
      exact last

end Made

/-- Making a module reloadable adds the dispatcher, and hooks each candidate of the survey once. It
touches nothing else. -/
theorem instrument_touches_hooks_only {settings : Settings} {symbols : Option Symbols}
    {survey : Survey} {instrumented : Instrumented}
    (makes : instrument settings module symbols = .ok (some instrumented))
    (surveyed : Survey.ofModule settings.markers module symbols = .ok survey)
    (room : Room module 1 2 (4 + 4 * survey.candidates.length)) :
    Touches settings.markers module instrumented ∧
      instrumented.hooks.map (·.type) = survey.candidates.map (·.type) ∧
      (instrumented.hooks.map (·.type)).Nodup := by
  have made := instrument_made makes surveyed room
  have types_eq := made.installed.types_eq
  refine ⟨made.touches (instrument_keeps makes).1, types_eq, ?_⟩
  rw [types_eq]
  exact made.distinct

end Rekindle.Reload

/-! ### A hooked type inside another -/

namespace Rekindle.Reload.Annex

open Validity

def main : RoutineDecl := .static "main" .void .returning

/-- A type that does not take part in reloading. -/
def program : TypeDecl :=
  { TypeDecl.named "Program" with
    nested := [⟨1⟩]
    fields := [⟨0⟩]
    routines := [⟨0⟩] }

/-- A generic type without an initializer that takes part. -/
def cache : TypeDecl :=
  { TypeDecl.named "Cache" with
    parameters := ["T"]
    attributes := [.bare Settings.standard.markers.reloadOnEnter]
    outer := some ⟨0⟩
    fields := [⟨1⟩] }

def module : Module where
  name := "app"
  identity := Vector.replicate 16 0
  references := []
  types := #[program, cache]
  fields := #[.static "runs" .int32, { FieldDecl.static "item" .object with owner := ⟨1⟩ }]
  routines := #[main]
  topLevel := [⟨0⟩]

def candidate : Candidate where
  type := ⟨1⟩
  fullName := "Program/Cache"
  fields := [{ field := ⟨1⟩, name := "item", isReadOnly := false, isForced := false }]
  teardowns := []

def instrumented : Instrumented := .ofCandidates module none [candidate]

theorem surveyed : Survey.ofModule Settings.unchecked.markers module none =
    .ok { candidates := [candidate], diagnostics := [], visited := 2 } := by cbv

theorem makes : instrument Settings.unchecked module none = .ok (some instrumented) := by
  have nested : checkNesting module = .ok () := by cbv
  have accepted : checkModule module = .ok () := checkModule_ok nested rfl rfl (by cbv)
  exact instrument_ofCandidates nested accepted surveyed (by simp) rfl

/-- The outer type and its routine are what they were, while the inner one has received routines
that were not there before. -/
theorem instrument_touches_hooks_only_annex :
    instrumented.module.type? ⟨0⟩ = some program ∧
      instrumented.module.routine? ⟨0⟩ = some main ∧
      ∃ received, instrumented.module.type? ⟨1⟩ = some { cache with routines := received } ∧
        ∀ routine ∈ received, Received module instrumented.module ⟨1⟩ routine := by
  rcases instrument_touches_hooks_only makes surveyed (by constructor <;> decide) with
    ⟨touches, types_eq, _⟩
  have inner : ∀ hook ∈ instrumented.hooks, hook.type = ⟨1⟩ := by
    intro hook listed
    have mapped := List.mem_map_of_mem (f := (·.type)) listed
    rw [types_eq] at mapped
    exact List.mem_singleton.mp mapped
  refine ⟨?_, ?_, ?_⟩
  · rcases touches.types ⟨0⟩ program rfl with ⟨received, kept, only, _⟩
    have untouched : received = [] := by
      apply only
      intro hook listed
      rw [inner hook listed]
      decide
    rw [kept, untouched, List.append_nil]
  · apply touches.routines ⟨0⟩ main rfl
    intro hook listed
    rw [inner hook listed]
    decide
  · rcases touches.types ⟨1⟩ cache rfl with ⟨received, kept, _, all⟩
    exact ⟨received, kept, all⟩

end Rekindle.Reload.Annex
