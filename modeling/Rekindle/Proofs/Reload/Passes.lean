import Mathlib.Logic.Relation
import Rekindle.Proofs.Fallible
import Rekindle.Reload.Instrument

/-!
# The passes

A module is made reloadable by one pass after the other, and each of them has to succeed. Once the
dispatcher type is declared, everything a pass does to the module is one of three edits: a type gets
a field, a type gets a routine, or a routine that exists gets a body. A routine that is added is
marked, unless it is the initializer of a hooked type that has none. What none of these edits
disturbs is undisturbed by the passes together.
-/

namespace Rekindle.Reload

open Fallible Relation Validity

/-- The passes that made a module reloadable, one after the other. -/
structure Passed (settings : Settings) (module : Module) (symbols : Option Symbols)
    (survey : Survey) (dispatched : Module) (instrumented : Instrumented) : Prop where
  usable : settings.fault? = none
  nested : checkNesting module = .ok ()
  surveyed : Survey.ofModule settings.markers module symbols = .ok survey
  candid : survey.candidates ≠ []
  accepted : checkModule module = .ok ()
  added : Dispatcher.addTo settings.markers module = .ok (dispatched, instrumented.dispatcher)
  hooked : Hook.ofCandidates settings.markers instrumented.dispatcher ⟨dispatched, symbols⟩
    survey.candidates = .ok (⟨instrumented.module, instrumented.symbols⟩, instrumented.hooks)
  checked : settings.checksOutput = true → checkModule instrumented.module = .ok ()
  diagnostics : instrumented.diagnostics = survey.diagnostics

theorem instrument_passed {settings : Settings} {module : Module} {symbols : Option Symbols}
    {instrumented : Instrumented}
    (made : instrument settings module symbols = .ok (some instrumented)) :
    ∃ survey dispatched, Passed settings module symbols survey dispatched instrumented := by
  unfold instrument at made
  split at made
  · cases made
  · rename_i usable
    simp only [bind_eq_ok_iff, mapError_eq_ok_iff] at made
    rcases made with ⟨⟨⟩, nested, survey, surveyed, made⟩
    split at made
    · cases made
    · rename_i some_candidate
      simp only [instrumentCandidates, bind_eq_ok_iff, mapError_eq_ok_iff, pure_eq_ok,
        Except.ok.injEq, Option.some.injEq] at made
      rcases made with ⟨_, ⟨⟨⟩, accepted, ⟨dispatched, dispatcher⟩, added, ⟨work, hooks⟩, hooked,
        made⟩, rfl⟩
      have candid : survey.candidates ≠ [] := by simpa using some_candidate
      split at made
      · rw [check_bind_eq_ok_iff, mapError_eq_ok_iff] at made
        rcases made with ⟨checked, ⟨⟩⟩
        exact ⟨survey, dispatched, usable, nested, surveyed, candid, accepted, added, hooked,
          fun _ => checked, rfl⟩
      · rename_i unchecked
        cases made
        exact ⟨survey, dispatched, usable, nested, surveyed, candid, accepted, added, hooked,
          fun checks => absurd checks unchecked, rfl⟩

/-- Nothing but the passes makes a module reloadable. -/
theorem Passed.makes {settings : Settings} {module dispatched : Module} {symbols : Option Symbols}
    {survey : Survey} {instrumented : Instrumented}
    (passed : Passed settings module symbols survey dispatched instrumented) :
    instrument settings module symbols = .ok (some instrumented) := by
  have candid : survey.candidates.isEmpty = false := by simpa using passed.candid
  have result : Instrumented.mk instrumented.module instrumented.symbols instrumented.dispatcher
      instrumented.hooks survey.diagnostics = instrumented := by
    rw [← passed.diagnostics]
  simp only [instrument, passed.usable, passed.nested, passed.surveyed, candid,
    instrumentCandidates, passed.accepted, passed.added, passed.hooked, result, Except.mapError,
    ok_bind, pure_eq_ok, Bool.false_eq_true, if_false]
  split
  · rename_i checks
    rw [passed.checked checks]
    rfl
  · rfl

/-- A module is left alone only for lack of candidates. -/
theorem instrument_bare {settings : Settings} {module : Module} {symbols : Option Symbols}
    (bare : instrument settings module symbols = .ok none) :
    ∃ survey, Survey.ofModule settings.markers module symbols = .ok survey ∧
      survey.candidates = [] := by
  unfold instrument at bare
  split at bare
  · cases bare
  · simp only [bind_eq_ok_iff] at bare
    rcases bare with ⟨_, _, survey, surveyed, bare⟩
    split at bare
    · rename_i no_candidate
      exact ⟨survey, surveyed, List.isEmpty_iff.mp no_candidate⟩
    · simp [bind_eq_ok_iff] at bare

/-! ### Known candidates -/

/-- Settings under which a module is not checked again at the end. -/
def Settings.unchecked : Settings := { checksOutput := false }

/-- The passes that change a module whose candidates are known. -/
def hookCandidates (module : Module) (symbols : Option Symbols) (candidates : List Candidate) :
    Except Fault Instrumented := do
  let (module, dispatcher) ← Dispatcher.addTo Settings.unchecked.markers module
  let (work, hooks) ←
    Hook.ofCandidates Settings.unchecked.markers dispatcher { module, symbols } candidates
  return {
    module := work.module
    symbols := work.symbols
    dispatcher
    hooks
    diagnostics := [] }

/-- What a module whose candidates are known is made into, if the passes succeed. -/
def Instrumented.ofCandidates (module : Module) (symbols : Option Symbols)
    (candidates : List Candidate) : Instrumented :=
  (hookCandidates module symbols candidates).toOption.getD default

/-- A module that is surveyed without diagnostics is made into what its candidates determine. -/
theorem instrument_ofCandidates {module : Module} {symbols : Option Symbols}
    {candidates : List Candidate} {visited : Nat} (nested : checkNesting module = .ok ())
    (accepted : checkModule module = .ok ())
    (surveyed : Survey.ofModule Settings.unchecked.markers module symbols =
      .ok { candidates, diagnostics := [], visited })
    (candid : candidates ≠ []) (succeeds : (hookCandidates module symbols candidates).isOk = true) :
    instrument Settings.unchecked module symbols =
      .ok (some (.ofCandidates module symbols candidates)) := by
  rcases made : hookCandidates module symbols candidates with fault | instrumented
  · rw [made] at succeeds
    cases succeeds
  · have result : Instrumented.ofCandidates module symbols candidates = instrumented := by
      rw [Instrumented.ofCandidates, made]
      rfl
    simp only [hookCandidates, bind_eq_ok_iff, Prod.exists, pure_eq_ok, Except.ok.injEq] at made
    rcases made with ⟨dispatched, dispatcher, added, work, hooks, hooked, made⟩
    have passed : Passed Settings.unchecked module symbols ⟨candidates, [], visited⟩ dispatched
        instrumented := by
      subst made
      exact {
        nested, accepted, surveyed, candid, added, hooked
        usable := by decide
        checked := by simp [Settings.unchecked]
        diagnostics := rfl }
    rw [result, passed.makes]

/-! ### Steps of a pass that succeeded -/

section Steps

variable {markers : Markers} {dispatcher : Dispatcher} {work finished : Workpiece} {type : TypeId}
  {candidate : Candidate} {copy load unload : Option RoutineId}

/-- The dispatcher was added as a type of a name that was free, with its members behind it. -/
theorem addTo_ok {module after : Module}
    (added : Dispatcher.addTo markers module = .ok (after, dispatcher)) :
    module.findType Names.dispatcher = none ∧
      Dispatcher.addMembers markers (module.addType (Dispatcher.typeDecl markers)).1
        (module.addType (Dispatcher.typeDecl markers)).2 = .ok (after, dispatcher) := by
  unfold Dispatcher.addTo at added
  split at added
  · cases added
  · rename_i absent
    exact ⟨absent, mapError_eq_ok_iff.mp added⟩

theorem initializerOf_ok {module : Module} {found? : Option RoutineId}
    (looks : Hook.initializerOf module type = .ok found?) : module.initializer type = .ok found? :=
  mapError_eq_ok_iff.mp looks

/-- An initializer with a body was copied together with its points, or there was none. -/
theorem copyInitializer_ok
    (copies : Hook.copyInitializer markers work type = .ok (finished, copy)) :
    work.module.initializer type = .ok none ∧ finished = work ∧ copy = none ∨
    ∃ initializer body name grown id, work.module.initializer type = .ok (some initializer) ∧
      (work.module.routine? initializer).bind (·.body) = some body ∧
      Hook.nameOf work.module type = .ok name ∧
      Hook.addRoutine markers work.module type (Names.initializerCopy name) body =
        .ok (grown, id) ∧
      finished = ⟨grown, work.symbols.map fun symbols => symbols.copyRoutine initializer id⟩ ∧
      copy = some id := by
  rcases bind_eq_ok_iff.mp copies with ⟨found?, looks, next⟩
  cases found? with
  | none =>
      cases next
      exact .inl ⟨initializerOf_ok looks, rfl, rfl⟩
  | some initializer =>
      rcases hasBody : (work.module.routine? initializer).bind (·.body) with _ | body
      · simp [hasBody] at next
      · simp only [hasBody, bind_eq_ok_iff, Prod.exists, pure_eq_ok, Except.ok.injEq,
          Prod.mk.injEq] at next
        rcases next with ⟨name, named, grown, id, adds, rfl, rfl⟩
        exact .inr ⟨initializer, body, name, grown, id, initializerOf_ok looks, hasBody, named,
          adds, rfl, rfl⟩

theorem rewireInitializer_ok {initializer : RoutineId}
    (rewires : Hook.rewireInitializer work type dispatcher copy load unload =
      (finished, .ok initializer)) :
    ∃ ensured body routine, Hook.ensureInitializer work.module type = .ok (ensured, initializer) ∧
      Hook.initializerBody ensured dispatcher copy load unload = .ok body ∧
      ensured.routine? initializer = some routine ∧
      finished = ⟨ensured.setRoutine initializer { routine with body := some body },
        work.symbols.map fun symbols => symbols.clearRoutine initializer⟩ := by
  unfold Hook.rewireInitializer at rewires
  split at rewires
  · cases rewires
  · rename_i ensured _ ensures
    split at rewires
    · cases rewires
    · cases rewires
    · rename_i body routine made declared
      cases rewires
      exact ⟨ensured, body, routine, ensures, made, declared, rfl⟩

theorem ofCandidate_ok {hook : Hook}
    (hooks : Hook.ofCandidate markers dispatcher work candidate = .ok (finished, hook)) :
    ∃ copied copy unloaded unload loaded load initializer,
      Hook.copyInitializer markers work candidate.type = .ok (copied, copy) ∧
      Hook.addUnload markers copied.module candidate = .ok (unloaded, unload) ∧
      Hook.addLoad markers unloaded candidate copy = .ok (loaded, load) ∧
      Hook.rewireInitializer { copied with module := loaded } candidate.type dispatcher copy load
        unload = (finished, .ok initializer) ∧
      hook = ⟨candidate.type, candidate.fullName, initializer, copy, load, unload⟩ := by
  simp only [Hook.ofCandidate, bind_eq_ok_iff, Prod.exists] at hooks
  rcases hooks with ⟨copied, copy, copies, unloaded, unload, unloads, loaded, load, loads,
    initializer, outcome_eq, made⟩
  cases made
  exact ⟨copied, copy, unloaded, unload, loaded, load, initializer, copies, unloads, loads,
    Prod.ext rfl outcome_eq, rfl⟩

theorem ofCandidates_cons_ok {candidates : List Candidate} {hooks : List Hook}
    (succeeds : Hook.ofCandidates markers dispatcher work (candidate :: candidates) =
      .ok (finished, hooks)) :
    ∃ middle hook others,
      Hook.ofCandidate markers dispatcher work candidate = .ok (middle, hook) ∧
      Hook.ofCandidates markers dispatcher middle candidates = .ok (finished, others) ∧
      hooks = hook :: others := by
  simp only [Hook.ofCandidates, bind_eq_ok_iff, Prod.exists, pure_eq_ok, Except.ok.injEq,
    Prod.mk.injEq] at succeeds
  rcases succeeds with ⟨middle, hook, first, _, others, rest, rfl, rfl⟩
  exact ⟨middle, hook, others, first, rest, rfl⟩

/-- There is one hook for each candidate, in the same order. -/
theorem ofCandidates_types {candidates : List Candidate} {hooks : List Hook}
    (hooked : Hook.ofCandidates markers dispatcher work candidates = .ok (finished, hooks)) :
    hooks.map (·.type) = candidates.map (·.type) := by
  induction candidates generalizing work hooks with
  | nil =>
      cases hooked
      rfl
  | cons candidate candidates ih =>
      rcases ofCandidates_cons_ok hooked with ⟨middle, hook, others, first, rest, rfl⟩
      rcases ofCandidate_ok first with ⟨_, _, _, _, _, _, _, _, _, _, _, rfl⟩
      rw [List.map_cons, List.map_cons, ih rest]

end Steps

/-! ### Chains of edits -/

/-- What a pass adds to a type as a routine, where some types are being hooked. -/
inductive Adds (markers : Markers) (types : List TypeId) (module : Module) (owner : TypeId) :
    RoutineDecl → Prop where
  | marked {routine : RoutineDecl} (marked : generated markers ∈ routine.attributes) :
      Adds markers types module owner routine
  | initializer (hooked : owner ∈ types) (lacking : module.initializer owner = .ok none) :
      Adds markers types module owner (.typeInitializer .returning)

/-- An edit that a pass makes. -/
inductive Alters (markers : Markers) (types : List TypeId) : Module → Module → Prop where
  | addField {module after : Module} {owner : TypeId} {field : FieldDecl} {id : FieldId}
      (added : module.addField owner field = .ok (after, id)) : Alters markers types module after
  | addRoutine {module after : Module} {owner : TypeId} {routine : RoutineDecl} {id : RoutineId}
      (adds : Adds markers types module owner routine)
      (added : module.addRoutine owner routine = .ok (after, id)) :
      Alters markers types module after
  | setBody {module : Module} {id : RoutineId} {routine : RoutineDecl}
      (declared : module.routine? id = some routine) (body : Body) :
      Alters markers types module (module.setRoutine id { routine with body := some body })

variable {markers : Markers} {types : List TypeId} {module after : Module}
  {dispatcher : Dispatcher}

theorem addMembers_alters {type : TypeId}
    (added : Dispatcher.addMembers markers module type = .ok (after, dispatcher)) :
    ReflTransGen (Alters markers types) module after := by
  unfold Dispatcher.addMembers at added
  simp only [bind_eq_ok_iff, Prod.exists, pure_eq_ok, Except.ok.injEq, Prod.mk.injEq] at added
  rcases added with ⟨_, _, unloadField, _, _, loadField, _, _, _, _, registerUnload, _, _, _, _,
    registerLoad, _, _, unload, _, _, load, rfl, _⟩
  have fields : ReflTransGen (Alters markers types) module _ :=
    .tail (.single (.addField unloadField)) (.addField loadField)
  have registrars := (fields.tail (.addRoutine (.marked (by simp [Dispatcher.registerDecl]))
    registerUnload)).tail (.addRoutine (.marked (by simp [Dispatcher.registerDecl])) registerLoad)
  exact (registrars.tail (.addRoutine (.marked (by simp [Dispatcher.invokeDecl])) unload)).tail
    (.addRoutine (.marked (by simp [Dispatcher.invokeDecl])) load)

theorem addTo_alters (added : Dispatcher.addTo markers module = .ok (after, dispatcher)) :
    ReflTransGen (Alters markers types) (module.addType (Dispatcher.typeDecl markers)).1 after :=
  addMembers_alters (addTo_ok added).2

section Hooks

variable {work finished : Workpiece} {type : TypeId} {candidate : Candidate}

theorem addRoutine_alters {name : String} {body : Body} {id : RoutineId}
    (added : Hook.addRoutine markers module type name body = .ok (after, id)) :
    ReflTransGen (Alters markers types) module after :=
  .single (.addRoutine (.marked (by simp [Hook.addedRoutine])) (mapError_eq_ok_iff.mp added))

theorem copyInitializer_alters {copy : Option RoutineId}
    (copied : Hook.copyInitializer markers work type = .ok (finished, copy)) :
    ReflTransGen (Alters markers types) work.module finished.module := by
  rcases copyInitializer_ok copied with ⟨_, rfl, _⟩ | ⟨_, _, _, _, _, _, _, _, addition, rfl, _⟩
  · exact .refl
  · exact addRoutine_alters addition

theorem addUnload_alters {unload : Option RoutineId}
    (added : Hook.addUnload markers module candidate = .ok (after, unload)) :
    ReflTransGen (Alters markers types) module after := by
  unfold Hook.addUnload at added
  split at added
  · cases added
    exact .refl
  · simp only [bind_eq_ok_iff, Prod.exists, pure_eq_ok, Except.ok.injEq, Prod.mk.injEq] at added
    rcases added with ⟨_, _, _, _, _, _, addition, rfl, _⟩
    exact addRoutine_alters addition

theorem addLoad_alters {copy load : Option RoutineId}
    (added : Hook.addLoad markers module candidate copy = .ok (after, load)) :
    ReflTransGen (Alters markers types) module after := by
  unfold Hook.addLoad at added
  split at added
  · cases added
    exact .refl
  · simp only [bind_eq_ok_iff, Prod.exists, pure_eq_ok, Except.ok.injEq, Prod.mk.injEq] at added
    rcases added with ⟨_, _, _, _, _, _, _, _, addition, rfl, _⟩
    exact addRoutine_alters addition

theorem ensureInitializer_alters {initializer : RoutineId}
    (ensured : Hook.ensureInitializer module type = .ok (after, initializer))
    (hooked : type ∈ types) : ReflTransGen (Alters markers types) module after := by
  rcases bind_eq_ok_iff.mp ensured with ⟨found, looks, next⟩
  cases found with
  | none =>
      have lacking := mapError_eq_ok_iff.mp looks
      exact .single (.addRoutine (.initializer hooked lacking) (mapError_eq_ok_iff.mp next))
  | some present =>
      cases next
      exact .refl

theorem rewireInitializer_alters {copy load unload : Option RoutineId} {initializer : RoutineId}
    (rewired : Hook.rewireInitializer work type dispatcher copy load unload =
      (finished, .ok initializer)) (hooked : type ∈ types) :
    ReflTransGen (Alters markers types) work.module finished.module := by
  rcases rewireInitializer_ok rewired with ⟨_, body, _, ensured, _, declared, rfl⟩
  exact (ensureInitializer_alters ensured hooked).tail (.setBody declared body)

theorem ofCandidate_alters {hook : Hook}
    (hooked : Hook.ofCandidate markers dispatcher work candidate = .ok (finished, hook))
    (listed : candidate.type ∈ types) :
    ReflTransGen (Alters markers types) work.module finished.module := by
  rcases ofCandidate_ok hooked with ⟨_, _, _, _, _, _, _, copies, unloads, loads, rewires, _⟩
  exact (copyInitializer_alters copies).trans <| (addUnload_alters unloads).trans <|
    (addLoad_alters loads).trans (rewireInitializer_alters rewires listed)

theorem ofCandidates_alters {candidates : List Candidate} {hooks : List Hook}
    (hooked : Hook.ofCandidates markers dispatcher work candidates = .ok (finished, hooks))
    (listed : ∀ candidate ∈ candidates, candidate.type ∈ types) :
    ReflTransGen (Alters markers types) work.module finished.module := by
  induction candidates generalizing work hooks with
  | nil =>
      cases hooked
      exact .refl
  | cons candidate candidates ih =>
      rcases ofCandidates_cons_ok hooked with ⟨_, _, _, first, rest, _⟩
      rcases List.forall_mem_cons.mp listed with ⟨here, others⟩
      exact (ofCandidate_alters first here).trans (ih rest others)

end Hooks

/-- A module that was made reloadable is what it was with the dispatcher type and with edits. -/
theorem Passed.alters {settings : Settings} {symbols : Option Symbols} {survey : Survey}
    {dispatched : Module} {instrumented : Instrumented}
    (passed : Passed settings module symbols survey dispatched instrumented) :
    ReflTransGen (Alters settings.markers (survey.candidates.map (·.type)))
      (module.addType (Dispatcher.typeDecl settings.markers)).1 instrumented.module :=
  (addTo_alters passed.added).trans
    (ofCandidates_alters passed.hooked fun _ listed => List.mem_map_of_mem listed)

end Rekindle.Reload
