import Rekindle.Proofs.Reload.Repeating
import Rekindle.Proofs.Reload.Surveyed
import Rekindle.Proofs.Reload.Touching

/-!
# What is added to a module is marked

Tools that come later tell what was added to a module by a mark. The dispatcher type and every
routine that a pass adds carry it, with one exception: the initializer that a hooked type gets where
it had none. What the module had before keeps the attributes it had.
-/

namespace Rekindle.Reload

open Fallible Relation Validity Rekindle.Module

variable {markers : Markers} {types : List TypeId} {module middle after : Module}
  {routine : RoutineDecl} {id : RoutineId} {owner : TypeId}

/-! ### Routines -/

/-- The initializer of a hooked type that had none in a module, as it is added to the type. -/
structure Supplied (module : Module) (types : List TypeId) (routine : RoutineDecl) : Prop where
  isInitializer : routine.isInitializer = true
  unmarked : routine.attributes = []
  hooked : routine.owner ∈ types
  lacking : module.initializer routine.owner = .ok none

/-- A routine that comes to stand under a handle that led nowhere was added there. -/
theorem addRoutine_fresh {added : RoutineDecl} {fresh : RoutineId}
    (adds : module.addRoutine owner added = .ok (after, fresh))
    (absent : module.routine? id = none) (found : after.routine? id = some routine) :
    routine = { added with owner } := by
  rcases addRoutine_ok adds with ⟨_, _, _, rfl⟩
  simp only [routine?, Array.getElem?_push] at absent found
  split at found
  · exact (Option.some.inj found).symm
  · rw [absent] at found
    cases found

theorem addField_routines {field : FieldDecl} {fresh : FieldId}
    (adds : module.addField owner field = .ok (after, fresh)) :
    after.routines = module.routines := by
  rcases addField_ok adds with ⟨_, _, _, _, rfl⟩
  rfl

theorem Alters.fresh (alters : Alters markers types module after)
    (absent : module.routine? id = none) (found : after.routine? id = some routine) :
    ∃ owner added, Adds markers types module owner added ∧ routine = { added with owner } := by
  cases alters with
  | addField added =>
      rw [routine?, addField_routines added, ← routine?, absent] at found
      cases found
  | addRoutine adds added => exact ⟨_, _, adds, addRoutine_fresh added absent found⟩
  | setBody declared body =>
      rw [(setRoutine_changed declared _).routine?_eq] at found
      split at found
      · next same =>
          rw [same, declared] at absent
          cases absent
      · rw [absent] at found
        cases found

/-! ### Initializers -/

theorem firstRoutine_eq_none_iff {accepts : RoutineDecl → Bool} {ids : List RoutineId} :
    module.firstRoutine accepts ids = .ok none ↔
      ∀ id ∈ ids, ∃ routine, module.routine? id = some routine ∧ accepts routine = false := by
  induction ids with
  | nil => simp [firstRoutine]
  | cons id others ih =>
      rw [firstRoutine, List.forall_mem_cons, ← ih]
      rcases declared : module.routine? id with _ | routine
      · simp
      · rcases accepted : accepts routine <;> simp [accepted]

/-- A type without an initializer had none before the passes. -/
theorem Matures.initializer_none (matures : Matures module after) (owned : MembersOwned module)
    {type : TypeDecl} (declared : module.type? owner = some type)
    (lacking : after.initializer owner = .ok none) : module.initializer owner = .ok none := by
  rcases matures.types owner type declared with ⟨_, kept, nested, fields, more, rfl⟩
  simp only [initializer, kept] at lacking
  simp only [initializer, declared, firstRoutine_eq_none_iff] at lacking ⊢
  intro id listed
  rcases (owned owner type declared).routines id listed with ⟨routine, found, _⟩
  rcases matures.routines id routine found with ⟨body, foundAfter, _⟩
  rcases lacking id (List.mem_append_left _ listed) with ⟨_, same, refused⟩
  rw [foundAfter] at same
  cases same
  exact ⟨routine, found, refused⟩

/-! ### Everything that is added -/

/-- What passes add to a module is marked, but for the initializers that types need. -/
def Marked (markers : Markers) (types : List TypeId) (module after : Module) : Prop :=
  ∀ id routine, module.routine? id = none → after.routine? id = some routine →
    generated markers ∈ routine.attributes ∨ Supplied module types routine

theorem marked_of_alters {start : Module} (owned : MembersOwned module)
    (declared : ∀ owner ∈ types, ∃ type, module.type? owner = some type)
    (extended : Extends module start) (sameRoutines : start.routines = module.routines)
    (altered : ReflTransGen (Alters markers types) start after) :
    Marked markers types module after := by
  induction altered with
  | refl =>
      intro id routine absent found
      rw [routine?, sameRoutines, ← routine?, absent] at found
      cases found
  | @tail middle after first last ih =>
      intro id routine absent found
      rcases there : middle.routine? id with _ | earlier
      · rcases last.fresh there found with ⟨owner, added, adds, rfl⟩
        cases adds with
        | marked marked => exact .inl marked
        | initializer hooked lacking =>
            rcases declared owner hooked with ⟨type, known⟩
            have matures := (Matures.of_extends extended).trans (matures_of_alters first)
            exact .inr ⟨rfl, rfl, hooked, matures.initializer_none owned known lacking⟩
      · -- A later edit changes at most its body.
        rcases last.matures.routines id earlier there with ⟨body, kept, _⟩
        rw [found] at kept
        cases kept
        exact (ih id earlier absent there).imp_right fun supplied =>
          ⟨supplied.isInitializer, supplied.unmarked, supplied.hooked, supplied.lacking⟩

/-! ### Types -/

/-- A type that only grows keeps its attributes. -/
theorem setType_attributes {type grown : TypeDecl} (declared : module.type? owner = some type)
    (kept : grown.attributes = type.attributes) :
    (module.setType owner grown).types.map (·.attributes) = module.types.map (·.attributes) := by
  refine Array.ext_getElem? fun position => ?_
  simp only [setType, Array.getElem?_map, Array.getElem?_setIfInBounds]
  split
  · next here =>
      subst here
      have inside := (Array.getElem?_eq_some_iff.mp declared).1
      rw [type?] at declared
      rw [if_pos inside, declared, Option.map_some, Option.map_some, kept]
  · rfl

theorem Alters.typeAttributes (alters : Alters markers types module after) :
    after.types.map (·.attributes) = module.types.map (·.attributes) := by
  cases alters with
  | addField added =>
      rcases addField_ok added with ⟨_, declared, _, _, rfl⟩
      exact setType_attributes declared rfl
  | addRoutine _ added =>
      rcases addRoutine_ok added with ⟨_, declared, _, rfl⟩
      exact setType_attributes declared rfl
  | setBody declared body => rfl

theorem typeAttributes_of_alters (altered : ReflTransGen (Alters markers types) module after) :
    after.types.map (·.attributes) = module.types.map (·.attributes) := by
  induction altered with
  | refl => rfl
  | tail _ last ih => exact last.typeAttributes.trans ih

theorem addTo_type {dispatcher : Dispatcher}
    (added : Dispatcher.addTo markers module = .ok (after, dispatcher)) :
    dispatcher.type = TypeId.ofPosition module.types.size := by
  have members := (addTo_ok added).2
  simp only [Dispatcher.addMembers, bind_eq_ok_iff, Prod.exists, pure_eq_ok, Except.ok.injEq,
    Prod.mk.injEq] at members
  rcases members with ⟨_, _, _, _, _, _, _, _, _, _, _, _, _, _, _, _, _, _, _, _, _, _, _, rfl⟩
  rfl

/-! ### A module that was made reloadable -/

/-- The attributes of a module that was made reloadable, compared with those it had. -/
structure Attributed (markers : Markers) (module : Module) (instrumented : Instrumented) :
    Prop where
  /-- One type was added behind all others, which is marked. -/
  types : instrumented.module.types.map (·.attributes) =
    (module.types.map (·.attributes)).push [generated markers]
  dispatcher : instrumented.dispatcher.type = TypeId.ofPosition module.types.size
  /-- A routine that was added is marked or the initializer that a hooked type needed. -/
  added : Marked markers (instrumented.hooks.map (·.type)) module instrumented.module
  fields : ∀ id field, module.field? id = some field → instrumented.module.field? id = some field
  routines : ∀ id routine, module.routine? id = some routine →
    ∃ after, instrumented.module.routine? id = some after ∧ after.attributes = routine.attributes

/-- Everything that making a module reloadable adds to it is marked, except for the initializers of
hooked types that had none, and nothing that was there gains an attribute. -/
theorem instrument_marks {settings : Settings} {symbols : Option Symbols}
    {instrumented : Instrumented}
    (makes : instrument settings module symbols = .ok (some instrumented)) :
    Attributed settings.markers module instrumented := by
  rcases instrument_passed makes with ⟨survey, dispatched, passed⟩
  have valid := checkModule_eq_ok_iff.mp passed.accepted
  have matures := passed.matures
  have declared : ∀ owner ∈ survey.candidates.map (·.type),
      ∃ type, module.type? owner = some type := by
    intro owner listed
    rcases List.mem_map.mp listed with ⟨candidate, isCandidate, rfl⟩
    exact (Survey.candidates_sound valid passed.surveyed candidate isCandidate).declared
  refine ⟨?_, addTo_type passed.added, ?_, matures.fields, ?_⟩
  · rw [typeAttributes_of_alters passed.alters]
    simp [addType, Dispatcher.typeDecl]
  · rw [ofCandidates_types passed.hooked]
    exact marked_of_alters valid.members declared (addType_extends _) rfl passed.alters
  · intro id routine found
    rcases matures.routines id routine found with ⟨body, kept, _⟩
    exact ⟨_, kept, rfl⟩

end Rekindle.Reload

/-! ## A type without an initializer takes part -/

namespace Rekindle.Reload.Annex

theorem instrument_marks_annex :
    instrument Settings.unchecked module none = .ok (some instrumented) ∧
    Attributed Settings.unchecked.markers module instrumented :=
  ⟨makes, instrument_marks makes⟩

/-- The initializer that the type gets is not marked. -/
theorem initializer_is_unmarked :
    instrument Settings.unchecked module none = .ok (some instrumented) ∧
    module.routine? ⟨6⟩ = none ∧
    ∃ routine, instrumented.module.routine? ⟨6⟩ = some routine ∧
      generated Settings.unchecked.markers ∉ routine.attributes := by
  refine ⟨makes, rfl, _, rfl, ?_⟩
  decide

end Rekindle.Reload.Annex
