import Rekindle.Proofs.Indexing.Assembling
import Rekindle.Proofs.Indexing.Checking
import Rekindle.Proofs.Indexing.Editing
import Rekindle.Proofs.Indexing.Surveying
import Rekindle.Proofs.Reload.Surveyed
import Rekindle.Reload.Instrument

/-!
# Making a module reloadable by position

The passes rely on the check that precedes them: it has shown that the lists of members do not lead
out of their tables, and the passes keep it so while the tables grow. The candidates were found by
the survey before that check, in the same module, so their types are still there. What was not
checked is asked for with a lookup that may fail, so that a module the check refuses is refused and
nothing else goes wrong with any module.
-/

namespace Rekindle.Indexing

open Fallible Rekindle.Module Reload

variable {module : Module}

/-! ### The dispatcher -/

def addSlot (module : Module) (type : TypeId) (name : String) : Run Fault (Module × FieldId) :=
  (addField module type (Dispatcher.slotDecl name)).mapError (Halt.map .module)

def addRegister (markers : Markers) (module : Module) (type : TypeId) (name : String)
    (slot : FieldRef) : Run Fault (Module × RoutineId) := do
  let body ← emitted (registerLines slot)
  let routine := { Dispatcher.registerDecl markers name slot with body := some body }
  (addRoutine module type routine).mapError (Halt.map .module)

def addInvoke (markers : Markers) (module : Module) (type : TypeId) (name : String)
    (slot : FieldRef) : Run Fault (Module × RoutineId) := do
  let body ← emitted (invokeLines slot)
  let routine := { Dispatcher.invokeDecl markers name slot with body := some body }
  (addRoutine module type routine).mapError (Halt.map .module)

def addMembers (markers : Markers) (module : Module) (type : TypeId) :
    Run Fault (Module × Dispatcher) := do
  let (module, unloadActions) ← addSlot module type Names.unloadActions
  let (module, loadActions) ← addSlot module type Names.loadActions
  let unloadSlot ← within ((module.bindField unloadActions .inside).mapError .module)
  let (module, registerUnload) ←
    addRegister markers module type Names.registerUnload unloadSlot
  let loadSlot ← within ((module.bindField loadActions .inside).mapError .module)
  let (module, registerLoad) ← addRegister markers module type Names.registerLoad loadSlot
  let (module, unload) ← addInvoke markers module type Names.unload unloadSlot
  let (module, load) ← addInvoke markers module type Names.load loadSlot
  return (module,
    { type, unloadActions, loadActions, registerUnload, registerLoad, unload, load })

def addDispatcher (markers : Markers) (module : Module) : Run Fault (Module × Dispatcher) :=
  match module.findType Names.dispatcher with
  | some _ => throw (.reported (.dispatcherExists Names.dispatcher))
  | none =>
    let (module, type) := module.addType (Dispatcher.typeDecl markers)
    addMembers markers module type

theorem addSlot_matches (members : MembersInside module) (type : TypeId) (name : String) :
    Matches (addSlot module type name)
      ((module.addField type (Dispatcher.slotDecl name)).mapError Fault.module)
      fun added => BuiltOn module added.1 :=
  (addField_matches members type _).mapError Fault.module

theorem addRegister_matches (markers : Markers) (members : MembersInside module) (type : TypeId)
    (name : String) (slot : FieldRef) :
    Matches (addRegister markers module type name slot)
      ((module.addRoutine type (Dispatcher.registerDecl markers name slot)).mapError Fault.module)
      fun added => BuiltOn module added.1 := by
  unfold addRegister
  rw [registerLines_emitted, ok_bind]
  exact ((addRoutine_matches members type (Dispatcher.registerDecl markers name slot)).mapError
    Fault.module).imp fun _ grown => grown.1

theorem addInvoke_matches (markers : Markers) (members : MembersInside module) (type : TypeId)
    (name : String) (slot : FieldRef) :
    Matches (addInvoke markers module type name slot)
      ((module.addRoutine type (Dispatcher.invokeDecl markers name slot)).mapError Fault.module)
      fun added => BuiltOn module added.1 := by
  unfold addInvoke
  rw [invokeLines_emitted, ok_bind]
  exact ((addRoutine_matches members type (Dispatcher.invokeDecl markers name slot)).mapError
    Fault.module).imp fun _ grown => grown.1

theorem addMembers_matches (markers : Markers) (members : MembersInside module) (type : TypeId) :
    Matches (addMembers markers module type)
      ((Dispatcher.addMembers markers module type).mapError Fault.module)
      fun added => BuiltOn module added.1 := by
  unfold addMembers Dispatcher.addMembers
  rw [mapError_bind]
  refine (addSlot_matches members type _).bind fun (first, _) grown => ?_
  dsimp only
  rw [mapError_bind]
  refine (addSlot_matches grown.members type _).bind fun (second, _) step => ?_
  replace grown := grown.trans step
  dsimp only
  rw [mapError_bind]
  refine (Matches.of_within _).bind fun unloadSlot _ => ?_
  rw [mapError_bind]
  refine (addRegister_matches markers grown.members type _ _).bind fun (third, _) step => ?_
  replace grown := grown.trans step
  dsimp only
  rw [mapError_bind]
  refine (Matches.of_within _).bind fun loadSlot _ => ?_
  rw [mapError_bind]
  refine (addRegister_matches markers grown.members type _ _).bind fun (fourth, _) step => ?_
  replace grown := grown.trans step
  dsimp only
  rw [mapError_bind]
  refine (addInvoke_matches markers grown.members type _ _).bind fun (fifth, _) step => ?_
  replace grown := grown.trans step
  dsimp only
  rw [mapError_bind]
  refine (addInvoke_matches markers grown.members type _ _).bind fun (sixth, _) step => ?_
  exact .ok (grown.trans step)

theorem addDispatcher_matches (markers : Markers) (members : MembersInside module) :
    Matches (addDispatcher markers module) (Dispatcher.addTo markers module)
      fun added => BuiltOn module added.1 := by
  unfold addDispatcher Dispatcher.addTo
  rcases module.findType Names.dispatcher with _ | existing
  · have typed := addType_builtOn members (Dispatcher.typeDecl markers)
    exact (addMembers_matches markers typed.members _).imp fun _ grown => typed.trans grown
  · exact .error _

/-! ### Hooking a type -/

def nameAt (module : Module) (id : TypeId) : Run Fault String := do
  let type ← typeAt module id
  return type.name

def addHookRoutine (markers : Markers) (module : Module) (type : TypeId) (name : String)
    (body : Body) : Run Fault (Module × RoutineId) :=
  (addRoutine module type (Hook.addedRoutine markers name body)).mapError (Halt.map .module)

def copyInitializer (markers : Markers) (work : Workpiece) (type : TypeId) :
    Run Fault (Workpiece × Option RoutineId) := do
  match ← initializer work.module type with
  | none => return (work, none)
  | some initializer =>
    let routine ← routineAt work.module initializer
    match routine.body with
    | none => throw (.reported (.missingBody (work.module.routineName initializer)))
    | some body =>
      let name ← nameAt work.module type
      let (module, copy) ←
        addHookRoutine markers work.module type (Names.initializerCopy name) body
      let symbols := work.symbols.map fun symbols => symbols.copyRoutine initializer copy
      return ({ module, symbols }, some copy)

def addUnload (markers : Markers) (module : Module) (candidate : Candidate) :
    Run Fault (Module × Option RoutineId) :=
  if candidate.teardowns.isEmpty then return (module, none)
  else do
    let calls ← within (candidate.teardowns.mapM fun teardown =>
      Hook.callInside module teardown.routine)
    let name ← nameAt module candidate.type
    let body ← emitted (straightLines calls)
    let (module, unload) ←
      addHookRoutine markers module candidate.type (Names.unloadType name) body
    return (module, some unload)

def resetField (module : Module) (id : FieldId) : Run Fault (List Instruction) := do
  let reference ← within ((module.bindField id .inside).mapError .module)
  let field ← fieldAt module id
  return [.loadFieldAddress reference, .storeDefault field.type]

def addLoad (markers : Markers) (module : Module) (candidate : Candidate)
    (copy : Option RoutineId) : Run Fault (Module × Option RoutineId) :=
  if candidate.fields.isEmpty && copy.isNone then return (module, none)
  else do
    let resets ← candidate.fields.mapM fun field => resetField module field.field
    let call ← within (Hook.callIfPresent module copy)
    let name ← nameAt module candidate.type
    let body ← emitted (straightLines (resets.flatten ++ call))
    let (module, load) ←
      addHookRoutine markers module candidate.type (Names.loadType name) body
    return (module, some load)

def ensureInitializer (module : Module) (type : TypeId) : Run Fault (Module × RoutineId) := do
  match ← initializer module type with
  | some initializer => return (module, initializer)
  | none =>
    (addRoutine module type (.typeInitializer .returning)).mapError (Halt.map .module)

def initializerBody (module : Module) (dispatcher : Dispatcher)
    (copy load unload : Option RoutineId) : Run Fault Body := do
  let call ← within (Hook.callIfPresent module copy)
  let registerLoad ← within (Hook.register module load dispatcher.registerLoad)
  let registerUnload ← within (Hook.register module unload dispatcher.registerUnload)
  emitted (straightLines (call ++ registerLoad ++ registerUnload))

def rewireInitializer (work : Workpiece) (type : TypeId) (dispatcher : Dispatcher)
    (copy load unload : Option RoutineId) : Run Fault (Workpiece × RoutineId) := do
  let (module, initializer) ← ensureInitializer work.module type
  let body ← initializerBody module dispatcher copy load unload
  let routine ← routineAt module initializer
  let routines ← put module.routines initializer.position { routine with body := some body }
  return ({ module := { module with routines }
            symbols := work.symbols.map fun symbols => symbols.clearRoutine initializer },
    initializer)

def hookCandidate (markers : Markers) (dispatcher : Dispatcher) (work : Workpiece)
    (candidate : Candidate) : Run Fault (Workpiece × Hook) := do
  let (work, initializerCopy) ← copyInitializer markers work candidate.type
  let (module, unload) ← addUnload markers work.module candidate
  let (module, load) ← addLoad markers module candidate initializerCopy
  let (work, initializer) ←
    rewireInitializer { work with module } candidate.type dispatcher initializerCopy load unload
  return (work,
    { type := candidate.type, fullName := candidate.fullName, initializer, initializerCopy, load,
      unload })

def hookCandidates (markers : Markers) (dispatcher : Dispatcher) (work : Workpiece) :
    List Candidate → Run Fault (Workpiece × List Hook)
  | [] => return (work, [])
  | candidate :: candidates => do
    let (work, hook) ← hookCandidate markers dispatcher work candidate
    let (work, hooks) ← hookCandidates markers dispatcher work candidates
    return (work, hook :: hooks)

theorem addHookRoutine_matches (markers : Markers) (members : MembersInside module)
    (type : TypeId) (name : String) (body : Body) :
    Matches (addHookRoutine markers module type name body)
      (Hook.addRoutine markers module type name body) fun added => BuiltOn module added.1 :=
  ((addRoutine_matches members type (Hook.addedRoutine markers name body)).mapError
    Fault.module).imp fun _ grown => grown.1

theorem nameAt_matches {id : TypeId} (inside : id.position < module.types.size) :
    Matches (nameAt module id) (Hook.nameOf module id) fun _ => True := by
  obtain ⟨type, declared⟩ : ∃ type, module.type? id = some type :=
    ⟨_, Array.getElem?_eq_getElem inside⟩
  rw [nameAt, typeAt_of_some declared, Hook.nameOf, declared]
  exact .ok trivial

theorem initializer_matches (members : MembersInside module) (id : TypeId) :
    Matches (initializer module id) (Hook.initializerOf module id) fun found =>
      ∀ initializer, found = some initializer → initializer.position < module.routines.size := by
  rcases initializer_inside (ε := Fault) members id with ⟨found, expected, same, inside⟩
  rw [same, Hook.initializerOf, expected]
  exact .ok inside

theorem copyInitializer_matches (markers : Markers) {work : Workpiece} {type : TypeId}
    (members : MembersInside work.module) (inside : type.position < work.module.types.size) :
    Matches (copyInitializer markers work type) (Hook.copyInitializer markers work type)
      fun copied => BuiltOn work.module copied.1.module := by
  unfold copyInitializer Hook.copyInitializer
  refine (initializer_matches members type).bind fun found foundInside => ?_
  rcases found with _ | initializer
  · exact .ok members.builtOn
  · obtain ⟨routine, declared⟩ : ∃ routine, work.module.routine? initializer = some routine :=
      ⟨_, Array.getElem?_eq_getElem (foundInside initializer rfl)⟩
    dsimp only
    rw [routineAt_of_some declared, ok_bind, declared, Option.bind_some]
    rcases routine.body with _ | body
    · exact .error _
    · refine (nameAt_matches inside).bind fun name _ => ?_
      exact (addHookRoutine_matches markers members type _ body).bind fun _ grown => .ok grown

theorem addUnload_matches (markers : Markers) {candidate : Candidate}
    (members : MembersInside module) (inside : candidate.type.position < module.types.size) :
    Matches (addUnload markers module candidate) (Hook.addUnload markers module candidate)
      fun added => BuiltOn module added.1 := by
  unfold addUnload Hook.addUnload
  split
  · exact .ok members.builtOn
  · refine (Matches.of_within _).bind fun calls _ => (nameAt_matches inside).bind fun name _ => ?_
    rw [straightLines_emitted, ok_bind]
    exact (addHookRoutine_matches markers members _ _ _).bind fun _ grown => .ok grown

theorem resetField_within (module : Module) (id : FieldId) :
    resetField module id = within (Hook.resetField module id) := by
  unfold resetField Hook.resetField
  refine bind_within fun reference bound => ?_
  rcases declared : module.field? id with _ | field
  · rw [bindField, declared] at bound
    cases bound
  · rw [fieldAt_of_some declared]
    rfl

theorem addLoad_matches (markers : Markers) {candidate : Candidate} (copy : Option RoutineId)
    (members : MembersInside module) (inside : candidate.type.position < module.types.size) :
    Matches (addLoad markers module candidate copy) (Hook.addLoad markers module candidate copy)
      fun added => BuiltOn module added.1 := by
  unfold addLoad Hook.addLoad
  split
  · exact .ok members.builtOn
  · rw [mapM_within fun field _ => resetField_within module field.field]
    refine (Matches.of_within _).bind fun resets _ => (Matches.of_within _).bind fun call _ => ?_
    refine (nameAt_matches inside).bind fun name _ => ?_
    rw [straightLines_emitted, ok_bind]
    exact (addHookRoutine_matches markers members _ _ _).bind fun _ grown => .ok grown

theorem ensureInitializer_matches (members : MembersInside module) (type : TypeId) :
    Matches (ensureInitializer module type) (Hook.ensureInitializer module type)
      fun ensured => BuiltOn module ensured.1 ∧ ensured.2.position < ensured.1.routines.size := by
  unfold ensureInitializer Hook.ensureInitializer
  refine (initializer_matches members type).bind fun found foundInside => ?_
  rcases found with _ | initializer
  · exact (addRoutine_matches members type _).mapError Fault.module
  · exact .ok ⟨members.builtOn, foundInside initializer rfl⟩

theorem initializerBody_within (module : Module) (dispatcher : Dispatcher)
    (copy load unload : Option RoutineId) :
    initializerBody module dispatcher copy load unload =
      within (Hook.initializerBody module dispatcher copy load unload) := by
  unfold initializerBody Hook.initializerBody
  refine bind_within fun _ _ => bind_within fun _ _ => bind_within fun _ _ => ?_
  rw [straightLines_emitted]
  rfl

/-- Rewires the initializer of a type, and gives the work and the initializer if that succeeds. -/
def rewired (work : Workpiece) (type : TypeId) (dispatcher : Dispatcher)
    (copy load unload : Option RoutineId) : Except Fault (Workpiece × RoutineId) :=
  let outcome := Hook.rewireInitializer work type dispatcher copy load unload
  outcome.2.map (outcome.1, ·)

theorem rewireInitializer_matches {work : Workpiece} (type : TypeId) (dispatcher : Dispatcher)
    (copy load unload : Option RoutineId) (members : MembersInside work.module) :
    Matches (rewireInitializer work type dispatcher copy load unload)
      (rewired work type dispatcher copy load unload)
      fun outcome => BuiltOn work.module outcome.1.module := by
  have ensures := ensureInitializer_matches members type
  unfold rewireInitializer rewired Hook.rewireInitializer
  rw [ensures.same]
  rcases ensured : Hook.ensureInitializer work.module type with fault | ⟨module, initializer⟩
  · exact .error fault
  · rcases ensures.holds _ ensured with ⟨grown, inside⟩
    obtain ⟨routine, declared⟩ : ∃ routine, module.routine? initializer = some routine :=
      ⟨_, Array.getElem?_eq_getElem inside⟩
    rw [within_ok, ok_bind]
    dsimp only
    rw [declared, initializerBody_within]
    rcases Hook.initializerBody module dispatcher copy load unload with fault | body
    · exact .error fault
    · rw [within_ok, ok_bind, routineAt_of_some declared, ok_bind, put_of_lt inside, ok_bind]
      refine .ok ⟨⟨grown.members.fields, ?_⟩, grown.typeCount, ?_⟩
      · intro id type found listed isListed
        simpa using grown.members.routines id type found listed isListed
      · simpa using grown.routineCount

theorem hookCandidate_matches (markers : Markers) (dispatcher : Dispatcher) {work : Workpiece}
    {candidate : Candidate} (members : MembersInside work.module)
    (inside : candidate.type.position < work.module.types.size) :
    Matches (hookCandidate markers dispatcher work candidate)
      (Hook.ofCandidate markers dispatcher work candidate)
      fun hooked => BuiltOn work.module hooked.1.module := by
  unfold hookCandidate Hook.ofCandidate
  refine (copyInitializer_matches markers members inside).bind fun (copied, copy) grown => ?_
  dsimp only at grown ⊢
  refine (addUnload_matches markers grown.members
    (Nat.lt_of_lt_of_le inside grown.typeCount)).bind fun (module, unload) step => ?_
  replace grown := grown.trans step
  refine (addLoad_matches markers copy grown.members
    (Nat.lt_of_lt_of_le inside grown.typeCount)).bind fun (module, load) step => ?_
  replace grown := grown.trans step
  have rewires : Matches (rewireInitializer { copied with module } candidate.type dispatcher copy
      load unload) _ _ := rewireInitializer_matches candidate.type dispatcher copy load unload
    grown.members
  rw [rewires.same, rewired]
  rcases outcome : Hook.rewireInitializer { copied with module } candidate.type dispatcher copy
    load unload with ⟨work, fault | initializer⟩
  · exact .error fault
  · exact .ok (grown.trans (rewires.holds (work, initializer) (by rw [rewired, outcome]; rfl)))

theorem hookCandidates_matches (markers : Markers) (dispatcher : Dispatcher) (work : Workpiece)
    {candidates : List Candidate} (members : MembersInside work.module)
    (inside : ∀ candidate ∈ candidates, candidate.type.position < work.module.types.size) :
    Matches (hookCandidates markers dispatcher work candidates)
      (Hook.ofCandidates markers dispatcher work candidates) fun _ => True := by
  induction candidates generalizing work with
  | nil => exact .ok trivial
  | cons candidate candidates ih =>
      unfold hookCandidates Hook.ofCandidates
      have here := inside candidate List.mem_cons_self
      have first := hookCandidate_matches markers dispatcher members here
      refine first.bind fun (hooked, _) grown => ?_
      have others : ∀ other ∈ candidates, other.type.position < hooked.module.types.size :=
        fun other listed => Nat.lt_of_lt_of_le (inside other (List.mem_cons_of_mem _ listed))
          grown.typeCount
      exact (ih hooked grown.members others).bind fun _ _ => .ok trivial

/-! ### The passes in order -/

def instrumentCandidates (settings : Settings) (module : Module) (symbols : Option Symbols)
    (survey : Survey) : Run Fault Instrumented := do
  (checkModule module).mapError (Halt.map .invalid)
  let (module, dispatcher) ← addDispatcher settings.markers module
  let (work, hooks) ←
    hookCandidates settings.markers dispatcher { module, symbols } survey.candidates
  if settings.checksOutput then
    (checkModule work.module).mapError (Halt.map .invalid)
  return {
    module := work.module
    symbols := work.symbols
    dispatcher
    hooks
    diagnostics := survey.diagnostics }

def instrument (settings : Settings) (module : Module) (symbols : Option Symbols) :
    Run Fault (Option Instrumented) :=
  match settings.fault? with
  | some fault => throw (.reported (.invalidSettings fault))
  | none => do
    (checkNesting module).mapError (Halt.map .invalid)
    let survey ← survey settings.markers module symbols
    if survey.candidates.isEmpty then return none
    else return some (← instrumentCandidates settings module symbols survey)

theorem membersInside_of_check
    (checks : (Validity.checkModule module).mapError Fault.invalid = .ok ()) :
    MembersInside module := by
  have valid := Validity.checkModule_eq_ok_iff.mp (mapError_eq_ok_iff.mp checks)
  constructor
  · intro id type declared field listed
    rcases (valid.members id type declared).fields field listed with ⟨_, found, _⟩
    exact (Array.getElem?_eq_some_iff.mp found).1
  · intro id type declared routine listed
    rcases (valid.members id type declared).routines routine listed with ⟨_, found, _⟩
    exact position_lt_of_routine? found

theorem instrumentCandidates_within (settings : Settings) {symbols : Option Symbols}
    {survey : Survey} (surveyed : Survey.ofModule settings.markers module symbols = .ok survey) :
    instrumentCandidates settings module symbols survey =
      within (Reload.instrumentCandidates settings module symbols survey) := by
  unfold instrumentCandidates Reload.instrumentCandidates
  rw [checkModule_within, mapError_within]
  refine bind_within fun _ checks => ?_
  have members := membersInside_of_check checks
  have dispatches := addDispatcher_matches settings.markers members
  rw [dispatches.same]
  refine bind_within fun (grown, dispatcher) added => ?_
  have built := dispatches.holds _ added
  have inside : ∀ candidate ∈ survey.candidates, candidate.type.position < grown.types.size := by
    intro candidate listed
    rcases Survey.candidates_listed surveyed candidate listed with ⟨type, declared, _⟩
    exact Nat.lt_of_lt_of_le (position_lt_of_type? declared) built.typeCount
  dsimp only
  rw [(hookCandidates_matches settings.markers dispatcher ⟨grown, symbols⟩ built.members
    inside).same]
  refine bind_within fun (work, hooks) _ => ?_
  dsimp only
  split
  · rw [checkModule_within, mapError_within]
    exact bind_within fun _ _ => rfl
  · rfl

theorem instrument_within (settings : Settings) (module : Module) (symbols : Option Symbols) :
    instrument settings module symbols = within (Reload.instrument settings module symbols) := by
  unfold instrument Reload.instrument
  rcases settings.fault? with _ | fault
  · dsimp only
    rw [checkNesting_within, mapError_within, survey_within]
    refine bind_within fun _ _ => bind_within fun survey surveyed => ?_
    split
    · rfl
    · rw [instrumentCandidates_within settings surveyed]
      exact bind_within fun _ _ => rfl
  · rfl

/-- Whatever a module holds, checking its nesting, surveying it, checking it and making it
reloadable go astray nowhere: each gives the result or reports the fault of the computation that
looks before every access. -/
theorem nothing_strays (settings : Settings) (module : Module) (symbols : Option Symbols) :
    (checkNesting module = within (Validity.checkNesting module) ∧
      survey settings.markers module symbols =
        within (Survey.ofModule settings.markers module symbols) ∧
      checkModule module = within (Validity.checkModule module) ∧
      instrument settings module symbols = within (Reload.instrument settings module symbols)) ∧
    ∀ position size,
      checkNesting module ≠ .error (.stray position size) ∧
      survey settings.markers module symbols ≠ .error (.stray position size) ∧
      checkModule module ≠ .error (.stray position size) ∧
      instrument settings module symbols ≠ .error (.stray position size) := by
  have nests := checkNesting_within module
  have surveys := survey_within settings.markers module symbols
  have checks := checkModule_within module
  have instruments := instrument_within settings module symbols
  refine ⟨⟨nests, surveys, checks, instruments⟩, fun position size => ?_⟩
  rw [nests, surveys, checks, instruments]
  exact ⟨within_ne_stray _ _ _, within_ne_stray _ _ _, within_ne_stray _ _ _,
    within_ne_stray _ _ _⟩

end Rekindle.Indexing
