import Rekindle.Proofs.Module.Tables
import Rekindle.Proofs.Reload.Passes

/-!
# What the passes leave alone

The passes add to a module and rewire it, but leave alone what it is called, what it is identified
by and what it refers to. Whatever they do to debug symbols, these stay those of the same module. All
of this holds for any module, also for one that is no use.
-/

namespace Rekindle.Reload

open Fallible Relation Validity

/-- A module is still what it was, and its types are called what they were. -/
structure Keeps (module after : Module) : Prop where
  name : after.name = module.name
  identity : after.identity = module.identity
  references : after.references = module.references
  types : ∀ type ∈ module.types, ∃ other ∈ after.types,
    other.outer = type.outer ∧ Module.qualifiedName other = Module.qualifiedName type

theorem Keeps.refl (module : Module) : Keeps module module :=
  ⟨rfl, rfl, rfl, fun type listed => ⟨type, listed, rfl, rfl⟩⟩

theorem Keeps.trans {module after last : Module} (first : Keeps module after)
    (second : Keeps after last) : Keeps module last := by
  refine ⟨second.name.trans first.name, second.identity.trans first.identity,
    second.references.trans first.references, ?_⟩
  intro type listed
  rcases first.types type listed with ⟨middle, middleListed, outer, named⟩
  rcases second.types middle middleListed with ⟨other, otherListed, otherOuter, otherNamed⟩
  exact ⟨other, otherListed, otherOuter.trans outer, otherNamed.trans named⟩

theorem setType_keeps {module : Module} {id : TypeId} {type grown : TypeDecl}
    (found : module.type? id = some type) (outer : grown.outer = type.outer)
    (named : Module.qualifiedName grown = Module.qualifiedName type) :
    Keeps module (module.setType id grown) := by
  refine ⟨rfl, rfl, rfl, ?_⟩
  intro other listed
  rcases Array.getElem?_of_mem listed with ⟨position, there⟩
  by_cases same : id.position = position
  · have inside := (Array.getElem?_eq_some_iff.mp found).1
    subst same
    rw [Module.type?, there] at found
    cases found
    refine ⟨grown, ?_, outer, named⟩
    apply Array.mem_of_getElem? (i := id.position)
    simp [Module.setType, inside]
  · refine ⟨other, ?_, rfl, rfl⟩
    apply Array.mem_of_getElem? (i := position)
    simp [Module.setType, same, there]

theorem addType_keeps (module : Module) (type : TypeDecl) :
    Keeps module (module.addType type).1 := by
  refine ⟨rfl, rfl, rfl, ?_⟩
  intro other listed
  exact ⟨other, Array.mem_push_of_mem _ listed, rfl, rfl⟩

theorem addField_keeps {module after : Module} {owner : TypeId} {field : FieldDecl} {id : FieldId}
    (added : module.addField owner field = .ok (after, id)) : Keeps module after := by
  rcases Module.addField_ok added with ⟨type, found, _, _, rfl⟩
  have kept : Keeps module (module.setType owner { type with fields := type.fields ++ [id] }) :=
    setType_keeps found rfl rfl
  exact ⟨rfl, rfl, rfl, kept.types⟩

theorem addRoutine_keeps {module after : Module} {owner : TypeId} {routine : RoutineDecl}
    {id : RoutineId} (added : module.addRoutine owner routine = .ok (after, id)) :
    Keeps module after := by
  rcases Module.addRoutine_ok added with ⟨type, found, _, rfl⟩
  have kept : Keeps module (module.setType owner { type with
      routines := type.routines ++ [id] }) := setType_keeps found rfl rfl
  exact ⟨rfl, rfl, rfl, kept.types⟩

theorem setRoutine_keeps (module : Module) (id : RoutineId) (routine : RoutineDecl) :
    Keeps module (module.setRoutine id routine) :=
  ⟨rfl, rfl, rfl, fun type listed => ⟨type, listed, rfl, rfl⟩⟩

variable {markers : Markers} {types : List TypeId} {module after : Module}
  {dispatcher : Dispatcher}

theorem Alters.keeps (alters : Alters markers types module after) : Keeps module after := by
  cases alters with
  | addField added => exact addField_keeps added
  | addRoutine _ added => exact addRoutine_keeps added
  | setBody _ body => exact setRoutine_keeps _ _ _

theorem keeps_of_alters (altered : ReflTransGen (Alters markers types) module after) :
    Keeps module after := by
  induction altered with
  | refl => exact .refl module
  | tail _ last ih => exact ih.trans last.keeps

/-- A module has a type of a name that is nested in none. -/
def Declares (module : Module) (name : String) : Prop :=
  ∃ type ∈ module.types, type.outer = none ∧ Module.qualifiedName type = name

theorem Keeps.declares {name : String} (keeps : Keeps module after)
    (declares : Declares module name) : Declares after name := by
  rcases declares with ⟨type, listed, outer, named⟩
  rcases keeps.types type listed with ⟨other, otherListed, sameOuter, sameName⟩
  exact ⟨other, otherListed, sameOuter.trans outer, sameName.trans named⟩

theorem Declares.findType {name : String} (declares : Declares module name)
    (few : module.types.size ≤ tableLimit) : (module.findType name).isSome = true := by
  rcases declares with ⟨type, listed, outer, named⟩
  rcases Array.getElem?_of_mem listed with ⟨position, there⟩
  have inside := (Array.getElem?_eq_some_iff.mp there).1
  have at_position : (TypeId.ofPosition position).position = position :=
    TypeId.position_ofPosition (by omega)
  refine List.find?_isSome.mpr ⟨TypeId.ofPosition position, ?_, ?_⟩
  · rw [Module.mem_typeIds, at_position]
    exact inside
  · have found : module.type? (TypeId.ofPosition position) = some type := by
      rw [Module.type?, at_position, there]
    rcases Nat.exists_eq_succ_of_ne_zero (Nat.ne_of_gt (Nat.zero_lt_of_lt inside)) with ⟨limit, size⟩
    have chain : module.outerChain module.types.size (TypeId.ofPosition position) = some [type] := by
      rw [size, Module.outerChain, found]
      simp only [outer]
    simpa [Module.fullName, chain, Module.chainName] using named

/-- The dispatcher type stays what it was called when it was declared. -/
theorem declares_of_alters (altered : ReflTransGen (Alters markers types)
    (module.addType (Dispatcher.typeDecl markers)).1 after) : Declares after Names.dispatcher :=
  (keeps_of_alters altered).declares ⟨_, Array.mem_push_self, rfl, rfl⟩

/-! ### Symbols -/

section Symbols

variable {work finished : Workpiece} {type : TypeId} {candidate : Candidate}

/-- Symbols are still those of the same module, if there are any. -/
def SameSymbols (work after : Workpiece) : Prop :=
  after.symbols.map (·.identity) = work.symbols.map (·.identity)

theorem copyRoutine_identity (symbols : Symbols) (source target : RoutineId) :
    (symbols.copyRoutine source target).identity = symbols.identity := by
  unfold Symbols.copyRoutine
  split <;> rfl

theorem copyInitializer_same {copy : Option RoutineId}
    (copied : Hook.copyInitializer markers work type = .ok (finished, copy)) :
    SameSymbols work finished := by
  rcases copyInitializer_ok copied with ⟨_, rfl, _⟩ | ⟨_, _, _, _, _, _, _, _, _, rfl, _⟩
  · rfl
  · unfold SameSymbols
    cases work.symbols with
    | none => rfl
    | some symbols => simp [copyRoutine_identity]

theorem rewireInitializer_same {copy load unload : Option RoutineId} {initializer : RoutineId}
    (rewired : Hook.rewireInitializer work type dispatcher copy load unload =
      (finished, .ok initializer)) : SameSymbols work finished := by
  rcases rewireInitializer_ok rewired with ⟨_, _, _, _, _, _, rfl⟩
  unfold SameSymbols
  cases work.symbols <;> rfl

theorem ofCandidate_same {hook : Hook}
    (hooked : Hook.ofCandidate markers dispatcher work candidate = .ok (finished, hook)) :
    SameSymbols work finished := by
  rcases ofCandidate_ok hooked with ⟨copied, _, _, _, _, _, _, copies, _, _, rewires, _⟩
  have same : SameSymbols work copied := copyInitializer_same copies
  exact Eq.trans (rewireInitializer_same rewires) same

theorem ofCandidates_same {candidates : List Candidate} {hooks : List Hook}
    (hooked : Hook.ofCandidates markers dispatcher work candidates = .ok (finished, hooks)) :
    SameSymbols work finished := by
  induction candidates generalizing work hooks with
  | nil =>
      cases hooked
      rfl
  | cons candidate candidates ih =>
      rcases ofCandidates_cons_ok hooked with ⟨_, _, _, first, rest, _⟩
      exact Eq.trans (ih rest) (ofCandidate_same first)

end Symbols

theorem ofModule_warns {symbols : Option Symbols} {survey : Survey}
    (surveyed : Survey.ofModule markers module symbols = .ok survey) :
    ∀ diagnostic ∈ survey.diagnostics, diagnostic.severity = .warning := by
  rcases bind_eq_ok_iff.mp surveyed with ⟨verdicts, _, found⟩
  cases found
  intro diagnostic listed
  rcases List.mem_flatMap.mp listed with ⟨candidate, _, warned⟩
  rcases List.mem_map.mp warned with ⟨field, _, rfl⟩
  rfl

/-- What making a module reloadable comes to, whatever the module. -/
theorem instrument_keeps {settings : Settings} {symbols : Option Symbols}
    {instrumented : Instrumented}
    (made : instrument settings module symbols = .ok (some instrumented)) :
    Keeps module instrumented.module ∧ Declares instrumented.module Names.dispatcher ∧
      instrumented.symbols.map (·.identity) = symbols.map (·.identity) ∧
      (settings.checksOutput = true → checkModule instrumented.module = .ok ()) ∧
      ∀ diagnostic ∈ instrumented.diagnostics, diagnostic.severity = .warning := by
  rcases instrument_passed made with ⟨survey, dispatched, passed⟩
  have altered := passed.alters
  refine ⟨(addType_keeps module _).trans (keeps_of_alters altered), declares_of_alters altered,
    ofCandidates_same passed.hooked, passed.checked, ?_⟩
  rw [passed.diagnostics]
  exact ofModule_warns passed.surveyed

end Rekindle.Reload
