import Rekindle.Proofs.Module.Extending
import Rekindle.Proofs.Module.Growth
import Rekindle.Proofs.Nest.Visiting
import Rekindle.Proofs.Reload.Inspecting
import Rekindle.Proofs.Reload.Processing

/-!
# A module is made reloadable once

A module that was made reloadable wants to be reloaded as before: its passes add to it and give
routines other bodies, but take nothing away that made a type a candidate. So a second run is never
content with the module: it fails on the way to the dispatcher, or because there is one already.
-/

namespace Rekindle.Reload

open Fallible Relation Validity Rekindle.Module

/-! ### Matured modules -/

/-- What a module still has after passes over it: types have grown, and a routine that had a body has
one. -/
structure Matures (module after : Module) : Prop where
  types : ∀ id type, module.type? id = some type →
    ∃ grown, after.type? id = some grown ∧ Grown type grown
  fields : ∀ id field, module.field? id = some field → after.field? id = some field
  routines : ∀ id routine, module.routine? id = some routine →
    ∃ body, after.routine? id = some { routine with body } ∧
      (routine.body.isSome = true → body.isSome = true)
  topLevel : module.topLevel <+: after.topLevel

namespace Matures

variable {module middle after : Module}

theorem of_extends (extended : Extends module after) : Matures module after where
  types := extended.types
  fields := extended.fields
  routines id routine declared :=
    ⟨routine.body, extended.routines id routine declared, fun hasBody => hasBody⟩
  topLevel := extended.topLevel

theorem refl (module : Module) : Matures module module := of_extends (.refl module)

theorem trans (first : Matures module middle) (second : Matures middle after) :
    Matures module after where
  types id type declared := by
    rcases first.types id type declared with ⟨grown, kept, more⟩
    rcases second.types id grown kept with ⟨last, keptAgain, evenMore⟩
    exact ⟨last, keptAgain, more.trans evenMore⟩
  fields id field declared := second.fields id field (first.fields id field declared)
  routines id routine declared := by
    rcases first.routines id routine declared with ⟨body, kept, stays⟩
    rcases second.routines id _ kept with ⟨last, keptAgain, staysAgain⟩
    exact ⟨last, keptAgain, fun hasBody => staysAgain (stays hasBody)⟩
  topLevel := first.topLevel.trans second.topLevel

theorem of_setBody {id : RoutineId} {routine : RoutineDecl}
    (declared : module.routine? id = some routine) (body : Body) :
    Matures module (module.setRoutine id { routine with body := some body }) where
  types _ type found := ⟨type, found, .refl type⟩
  fields _ _ found := found
  routines := ((setRoutine_changed declared _).grows declared).routines
  topLevel := List.prefix_rfl

end Matures

section Alters

variable {markers : Markers} {types : List TypeId} {module after : Module}

theorem Alters.matures (alters : Alters markers types module after) : Matures module after := by
  cases alters with
  | addField added => exact .of_extends (addField_extends added)
  | addRoutine _ added => exact .of_extends (addRoutine_extends added)
  | setBody declared body => exact .of_setBody declared body

theorem Alters.typeCount (alters : Alters markers types module after) :
    after.types.size = module.types.size := by
  cases alters with
  | addField added => exact addField_typeCount added
  | addRoutine _ added => exact addRoutine_typeCount added
  | setBody declared body => rfl

theorem matures_of_alters (altered : ReflTransGen (Alters markers types) module after) :
    Matures module after := by
  induction altered with
  | refl => exact .refl module
  | tail _ last ih => exact ih.trans last.matures

theorem typeCount_of_alters (altered : ReflTransGen (Alters markers types) module after) :
    after.types.size = module.types.size := by
  induction altered with
  | refl => rfl
  | tail _ last ih => exact last.typeCount.trans ih

end Alters

section Passed

variable {settings : Settings} {module dispatched : Module} {symbols : Option Symbols}
  {survey : Survey} {instrumented : Instrumented}

theorem Passed.matures
    (passed : Passed settings module symbols survey dispatched instrumented) :
    Matures module instrumented.module :=
  (Matures.of_extends (addType_extends _)).trans (matures_of_alters passed.alters)

theorem Passed.typeCount
    (passed : Passed settings module symbols survey dispatched instrumented) :
    instrumented.module.types.size = module.types.size + 1 :=
  (typeCount_of_alters passed.alters).trans (Array.size_push _)

end Passed

/-! ### Candidates stay candidates -/

namespace Survey

variable {markers : Markers} {module after : Module}

theorem optsIn_grown {type grown : TypeDecl} (optsIn : OptsIn markers type)
    (growth : Grown type grown) : OptsIn markers grown := by
  rcases growth with ⟨nested, fields, routines, rfl⟩
  exact optsIn

theorem TornDown.matured {id : RoutineId} (tornDown : TornDown markers module id)
    (matures : Matures module after) : TornDown markers after id := by
  rcases tornDown with ⟨routine, marker, declared, qualifies⟩
  rcases matures.routines id routine declared with ⟨body, kept, stays⟩
  rcases qualifies.body with ⟨before, hasBody⟩
  have hasBody : body.isSome = true := stays (by rw [hasBody]; rfl)
  exact ⟨_, marker, kept, qualifies.marked, qualifies.static, qualifies.parameters,
    qualifies.result, qualifies.monomorphic, qualifies.ordinary,
    Option.isSome_iff_exists.mp hasBody⟩

theorem resets_matured {id : FieldId} (reset : resets module id = true)
    (matures : Matures module after) : resets after id = true := by
  rcases declared : module.field? id with _ | field
  · simp [resets, declared] at reset
  · rw [resets, declared] at reset
    rw [resets, matures.fields id field declared]
    exact reset

theorem Reloadable.matured {type grown : TypeDecl} (reloadable : Reloadable markers module type)
    (growth : Grown type grown) (matures : Matures module after) :
    Reloadable markers after grown := by
  rcases growth with ⟨nested, fields, routines, rfl⟩
  rcases reloadable with ⟨field, listed, reset⟩ | ⟨routine, listed, tornDown⟩
  · exact .inl ⟨field, List.mem_append_left _ listed, resets_matured reset matures⟩
  · exact .inr ⟨routine, List.mem_append_left _ listed, tornDown.matured matures⟩

/-- The members of a type exist that was looked at and that wants to be reloaded. -/
theorem members_of_inspectType {id : TypeId} {type : TypeDecl} {verdict : Option Candidate}
    (declared : module.type? id = some type) (optsIn : OptsIn markers type)
    (inspected : inspectType markers module id = .ok verdict) :
    (∀ field ∈ type.fields, field.position < module.fields.size) ∧
      ∀ routine ∈ type.routines, routine.position < module.routines.size := by
  simp only [inspectType, declared, optsIn_iff.mpr optsIn, if_true, bind_eq_ok_iff] at inspected
  rcases inspected with ⟨fields, fieldsFound, teardowns, teardownsFound, _⟩
  constructor
  · intro field listed
    rcases exists_of_mapM_ok fieldsFound field listed with ⟨_, _, found⟩
    unfold fieldCandidate at found
    split at found
    · cases found
    · rename_i known
      exact (Array.getElem?_eq_some_iff.mp known).1
  · intro routine listed
    rcases exists_of_mapM_ok teardownsFound routine listed with ⟨_, _, found⟩
    unfold teardown at found
    split at found
    · cases found
    · rename_i known
      exact position_lt_of_routine? known

/-- A type that can be looked at is a candidate if it wants to be reloaded and has something to
reload. -/
theorem isSome_inspectType_iff {id : TypeId} {type : TypeDecl} {verdict : Option Candidate}
    (declared : module.type? id = some type)
    (inspected : inspectType markers module id = .ok verdict) :
    (∃ candidate, verdict = some candidate) ↔
      OptsIn markers type ∧ Reloadable markers module type := by
  by_cases optsIn : OptsIn markers type
  · rcases members_of_inspectType declared optsIn inspected with ⟨fields, routines⟩
    rcases inspectType_cases declared fields routines optsIn with
      ⟨other, same, candid, _⟩ | ⟨_, _, _, _, refused⟩
    · cases inspected.symm.trans same
      rw [candid, and_iff_right optsIn]
    · cases inspected.symm.trans refused
  · cases inspected.symm.trans (inspectType_of_not_optsIn declared optsIn)
    exact iff_of_false nofun fun wants => optsIn wants.1

theorem mem_nestOrder_matured {id : TypeId} {type : TypeDecl}
    (declared : module.type? id = some type) (visited : id ∈ module.nestOrder)
    (matures : Matures module after) : id ∈ after.nestOrder := by
  rcases mem_nestOrder_iff.mp visited with ⟨_, root, isRoot, inwards⟩
  rcases matures.types id type declared with ⟨grown, kept, _⟩
  refine mem_nestOrder_iff.mpr ⟨position_lt_of_type? kept, root, matures.topLevel.subset isRoot,
    ReflTransGen.mono ?_ _ _ inwards⟩
  rintro outer inner ⟨around, found, lists⟩
  rcases matures.types outer around found with ⟨_, keptAround, ⟨nested, _, _, rfl⟩⟩
  exact ⟨_, keptAround, List.mem_append_left _ lists⟩

/-- A survey that succeeds finds a candidate if a type is visited that is one. -/
theorem candidates_ne_nil_iff {symbols : Option Symbols} {survey : Survey}
    (surveyed : ofModule markers module symbols = .ok survey) :
    survey.candidates ≠ [] ↔
      ∃ id ∈ module.nestOrder, ∃ candidate, inspectType markers module id = .ok (some candidate) := by
  rcases ofModule_ok surveyed with ⟨verdicts, inspected, candidates_eq⟩
  rw [candidates_eq]
  constructor
  · intro candid
    rcases List.exists_mem_of_ne_nil _ candid with ⟨candidate, listed⟩
    rcases exists_item_of_mem inspected listed with ⟨id, visited, holds⟩
    exact ⟨id, visited, candidate, holds⟩
  · rintro ⟨id, visited, candidate, holds⟩
    rcases exists_of_mapM_ok inspected id visited with ⟨verdict, listed, same⟩
    cases holds.symm.trans same
    exact List.ne_nil_of_mem (List.mem_filterMap.mpr ⟨_, listed, rfl⟩)

/-- What made a type a candidate still does, so a survey that succeeds finds one again. -/
theorem candidates_matured {symbols symbols' : Option Symbols} {survey survey' : Survey}
    (surveyed : ofModule markers module symbols = .ok survey) (candid : survey.candidates ≠ [])
    (matures : Matures module after) (surveyed' : ofModule markers after symbols' = .ok survey') :
    survey'.candidates ≠ [] := by
  rcases (candidates_ne_nil_iff surveyed).mp candid with ⟨id, visited, candidate, inspected⟩
  rcases declared : module.type? id with _ | type
  · simp [inspectType, declared] at inspected
  · rcases (isSome_inspectType_iff declared inspected).mp ⟨candidate, rfl⟩ with
      ⟨optsIn, reloadable⟩
    rcases matures.types id type declared with ⟨grown, kept, growth⟩
    have visitedAgain := mem_nestOrder_matured declared visited matures
    rcases ofModule_ok surveyed' with ⟨_, inspectedAgain, _⟩
    rcases exists_of_mapM_ok inspectedAgain id visitedAgain with ⟨verdict, _, looked⟩
    rcases (isSome_inspectType_iff kept looked).mpr
      ⟨optsIn_grown optsIn growth, reloadable.matured growth matures⟩ with ⟨found, rfl⟩
    exact (candidates_ne_nil_iff surveyed').mpr ⟨id, visitedAgain, found, looked⟩

end Survey

/-! ### Making reloadable again -/

theorem Passed.again {settings : Settings} {module dispatched : Module} {symbols : Option Symbols}
    {survey : Survey} {instrumented : Instrumented}
    (passed : Passed settings module symbols survey dispatched instrumented)
    (few : module.types.size < tableLimit) (again : Option Symbols) :
    ∃ fault, instrument settings instrumented.module again = .error fault := by
  rcases outcome : instrument settings instrumented.module again with fault | _ | twice
  · exact ⟨fault, rfl⟩
  · rcases instrument_bare outcome with ⟨bare, surveyedAgain, no_candidate⟩
    exact absurd no_candidate
      (Survey.candidates_matured passed.surveyed passed.candid passed.matures surveyedAgain)
  · rcases instrument_passed outcome with ⟨_, _, passedAgain⟩
    have found := (declares_of_alters passed.alters).findType (passed.typeCount ▸ few)
    rw [(addTo_ok passedAgain.added).1] at found
    cases found

/-- A module that was made reloadable is not made reloadable again, nor left alone, with whatever
symbols, as long as there was a handle left for the dispatcher type. Nor is the image that processing
handed back: where it is eligible, it comes to nothing but one error. -/
theorem reloadable_once (settings : Settings) :
    (∀ module symbols instrumented, module.types.size < tableLimit →
      instrument settings module symbols = .ok (some instrumented) →
      ∀ again, ∃ fault, instrument settings instrumented.module again = .error fault) ∧
    (∀ first output, (process settings first).output = some output →
      (∀ input, Image.toModule first.image = .ok input → input.types.size < tableLimit) →
      output.image.length < Image.memoryLimit →
      ∀ again : CompiledModule, again.image = output.image → isEligible settings again = true →
        ∃ fault, process settings again =
          ⟨none, [.error (Failure.message ⟨again.name, fault⟩)]⟩) := by
  constructor
  · intro module symbols instrumented few made again
    rcases instrument_passed made with ⟨_, _, passed⟩
    exact passed.again few again
  · intro first output handed few fits again same eligible
    rcases process_output handed with ⟨input, symbols, _, reloadable, read, made, rfl, _⟩
    rcases instrument_passed made with ⟨_, _, passed⟩
    have written : Image.toModule again.image = .ok reloadable.module := by
      rw [same]
      apply toModule_written
      simp only [Image.ofModule, Image.ofModuleWith, Image.length_sealWith] at fits
      omega
    have small := few input (toModule_of_readCompiled read).1
    rcases passed.again small (symbolsFor reloadable.module.identity again.symbols) with
      ⟨fault, fails⟩
    rcases readCompiled_of_ok written with ⟨warnings, readAgain, _⟩ | ⟨other, unread⟩
    · exact ⟨fault, process_fails eligible (.inr ⟨_, _, warnings, readAgain, fails⟩)⟩
    · exact ⟨other, process_fails eligible (.inl unread)⟩

end Rekindle.Reload

namespace Rekindle.Reload.Cache

open Image

theorem cache_is_made_reloadable_once :
    module.types.size < tableLimit ∧
    (∃ fault, instrument Settings.unchecked instrumented.module none = .error fault) ∧
    (process Settings.unchecked compiled).output = some output ∧
    ∃ fault, process Settings.unchecked { compiled with image := output.image } =
      ⟨none, [.error (Failure.message ⟨"app", fault⟩)]⟩ := by
  have few : module.types.size < tableLimit := by decide
  have counted : ∀ input, toModule compiled.image = .ok input → input.types.size < tableLimit := by
    intro input read
    cases readable.symm.trans read
    exact few
  rcases reloadable_once Settings.unchecked with ⟨instrumentAgain, processAgain⟩
  exact ⟨few, instrumentAgain _ _ _ few makes none, handed_back,
    processAgain compiled output handed_back counted output_fits _ rfl (by decide)⟩

end Rekindle.Reload.Cache
