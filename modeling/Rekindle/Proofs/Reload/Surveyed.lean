import Rekindle.Proofs.Validity.Valid
import Rekindle.Reload.Survey

/-!
# What a survey finds

Every candidate of a survey is a type of the module that is found once. In a valid module its
fields have storage, its teardown routines can be called without arguments, and all of them belong
to it.
-/

namespace Rekindle

open Fallible

/-! ### The nest -/

namespace Module

variable {module : Module}

theorem visit_unmarked {marks : Array Bool} {pending : List TypeId} :
    ∀ id ∈ module.visit marks pending, marks[id.position]? = some false := by
  fun_induction visit module marks pending with
  | case1 marks => simp
  | case2 marks id others seen fewer ih =>
      intro visited listed
      rcases List.mem_cons.mp listed with rfl | later
      · exact seen
      · have unmarked := ih visited later
        rw [Array.getElem?_setIfInBounds] at unmarked
        split at unmarked
        · split at unmarked <;> cases unmarked
        · exact unmarked
  | case3 marks id others seen ih => exact ih
  | case4 marks id others seen ih => exact ih

theorem visit_nodup {marks : Array Bool} {pending : List TypeId} :
    (module.visit marks pending).Nodup := by
  fun_induction visit module marks pending with
  | case1 marks => exact List.nodup_nil
  | case2 marks id others seen fewer ih =>
      refine List.nodup_cons.mpr ⟨?_, ih⟩
      intro again
      have unmarked := visit_unmarked id again
      have inside : id.position < marks.size := (Array.getElem?_eq_some_iff.mp seen).1
      simp [inside] at unmarked
  | case3 marks id others seen ih => exact ih
  | case4 marks id others seen ih => exact ih

theorem nestOrder_nodup (module : Module) : module.nestOrder.Nodup := visit_nodup

end Module

namespace Reload

open Validity

variable {markers : Markers} {module : Module}

/-! ### Candidates -/

/-- What is known about the members of a candidate. -/
structure Candidate.Sound (module : Module) (candidate : Candidate) : Prop where
  declared : ∃ type, module.type? candidate.type = some type
  fields : ∀ found ∈ candidate.fields, ∃ field, module.field? found.field = some field ∧
    field.hasStorage = true ∧ field.owner = candidate.type
  teardowns : ∀ found ∈ candidate.teardowns, ∃ routine,
    module.routine? found.routine = some routine ∧ Survey.isTeardown routine = true ∧
      routine.owner = candidate.type

namespace Survey

theorem fieldCandidate_ok {id : FieldId} {found : FieldCandidate}
    (inspected : fieldCandidate markers module id = .ok (some found)) :
    found.field = id ∧ ∃ field, module.field? id = some field ∧ field.hasStorage = true := by
  unfold fieldCandidate at inspected
  rcases declared : module.field? id with _ | field
  · simp [declared] at inspected
  · by_cases storage : field.hasStorage = true
    · simp only [declared, storage, if_true, Except.ok.injEq, Option.some.injEq] at inspected
      subst inspected
      exact ⟨rfl, field, rfl, storage⟩
    · simp [declared, storage] at inspected

theorem teardown_ok {id : RoutineId} {found : Teardown}
    (inspected : teardown markers module id = .ok (some found)) :
    found.routine = id ∧ ∃ routine, module.routine? id = some routine ∧
      isTeardown routine = true := by
  unfold teardown at inspected
  rcases declared : module.routine? id with _ | routine
  · simp [declared] at inspected
  · rcases marked : Attribute.find? routine.attributes markers.runBeforeReload with _ | marker
    · simp [declared, marked] at inspected
    · by_cases fit : isTeardown routine = true
      · simp only [declared, marked, fit, if_true, bind_eq_ok_iff, pure_eq_ok, Except.ok.injEq,
          Option.some.injEq] at inspected
        rcases inspected with ⟨order, _, rfl⟩
        exact ⟨rfl, routine, rfl, fit⟩
      · simp [declared, marked, fit] at inspected

/-- What was found by looking at the items of a list one by one was found at one of them. -/
theorem exists_item_of_mem {α β : Type} {items : List α} {verdicts : List (Option β)}
    {inspect : α → Except Fault (Option β)} (inspected : items.mapM inspect = .ok verdicts)
    {found : β} (listed : found ∈ verdicts.filterMap fun verdict => verdict) :
    ∃ item ∈ items, inspect item = .ok (some found) := by
  have pairs := mapM_eq_ok_iff.mp inspected
  clear inspected
  induction pairs with
  | nil => simp at listed
  | cons first others ih =>
      rename_i item verdict items verdicts
      rw [List.filterMap_cons] at listed
      rcases verdict with _ | value
      · rcases ih listed with ⟨other, isItem, holds⟩
        exact ⟨other, List.mem_cons_of_mem _ isItem, holds⟩
      · rcases List.mem_cons.mp listed with rfl | later
        · exact ⟨item, List.mem_cons_self, first⟩
        · rcases ih later with ⟨other, isItem, holds⟩
          exact ⟨other, List.mem_cons_of_mem _ isItem, holds⟩

theorem inspectType_ok {id : TypeId} {candidate : Candidate}
    (inspected : inspectType markers module id = .ok (some candidate)) :
    candidate.type = id ∧ ∃ type, module.type? id = some type ∧
      (∀ found ∈ candidate.fields, ∃ listed ∈ type.fields,
        fieldCandidate markers module listed = .ok (some found)) ∧
      ∀ found ∈ candidate.teardowns, ∃ listed ∈ type.routines,
        teardown markers module listed = .ok (some found) := by
  unfold inspectType at inspected
  rcases declared : module.type? id with _ | type
  · simp [declared] at inspected
  · by_cases marked : Attribute.has type.attributes markers.reloadOnEnter = true
    · simp only [declared, marked, if_true, bind_eq_ok_iff, pure_eq_ok, Except.ok.injEq] at inspected
      rcases inspected with ⟨fields, fields_eq, teardowns, teardowns_eq, verdict⟩
      split at verdict
      · cases verdict
      · cases verdict
        refine ⟨rfl, type, rfl, ?_, ?_⟩
        · intro found listed
          exact exists_item_of_mem fields_eq listed
        · intro found listed
          exact exists_item_of_mem teardowns_eq (List.mem_mergeSort.mp listed)
    · simp [declared, marked] at inspected

theorem inspectType_sound (valid : Valid module) {id : TypeId} {candidate : Candidate}
    (inspected : inspectType markers module id = .ok (some candidate)) :
    candidate.Sound module := by
  rcases inspectType_ok inspected with ⟨rfl, type, declared, fields, teardowns⟩
  have members := valid.members candidate.type type declared
  refine ⟨⟨type, declared⟩, ?_, ?_⟩
  · intro found listed
    rcases fields found listed with ⟨field, isMember, holds⟩
    rcases fieldCandidate_ok holds with ⟨rfl, field, declaredField, storage⟩
    rcases members.fields _ isMember with ⟨other, declaredOther, owns⟩
    rw [declaredField] at declaredOther
    cases declaredOther
    exact ⟨field, declaredField, storage, owns⟩
  · intro found listed
    rcases teardowns found listed with ⟨routine, isMember, holds⟩
    rcases teardown_ok holds with ⟨rfl, routine, declaredRoutine, fit⟩
    rcases members.routines _ isMember with ⟨other, declaredOther, owns⟩
    rw [declaredRoutine] at declaredOther
    cases declaredOther
    exact ⟨routine, declaredRoutine, fit, owns⟩

/-! ### The survey as a whole -/

variable {symbols : Option Symbols} {survey : Survey}

theorem ofModule_ok (surveyed : ofModule markers module symbols = .ok survey) :
    ∃ verdicts, module.nestOrder.mapM (inspectType markers module) = .ok verdicts ∧
      survey.candidates = verdicts.filterMap fun verdict => verdict := by
  simp only [ofModule, bind_eq_ok_iff, pure_eq_ok, Except.ok.injEq] at surveyed
  rcases surveyed with ⟨verdicts, inspected, rfl⟩
  exact ⟨verdicts, inspected, rfl⟩

theorem candidates_sound (valid : Valid module)
    (surveyed : ofModule markers module symbols = .ok survey) :
    ∀ candidate ∈ survey.candidates, candidate.Sound module := by
  rcases ofModule_ok surveyed with ⟨verdicts, inspected, candidates_eq⟩
  intro candidate listed
  rw [candidates_eq] at listed
  rcases exists_item_of_mem inspected listed with ⟨id, _, holds⟩
  exact inspectType_sound valid holds

/-- The fields of a candidate are listed by its type. -/
theorem candidates_listed (surveyed : ofModule markers module symbols = .ok survey) :
    ∀ candidate ∈ survey.candidates, ∃ type, module.type? candidate.type = some type ∧
      ∀ found ∈ candidate.fields, found.field ∈ type.fields := by
  rcases ofModule_ok surveyed with ⟨verdicts, inspected, candidates_eq⟩
  intro candidate listed
  rw [candidates_eq] at listed
  rcases exists_item_of_mem inspected listed with ⟨id, _, holds⟩
  rcases inspectType_ok holds with ⟨rfl, type, declared, fields, _⟩
  refine ⟨type, declared, ?_⟩
  intro found isField
  rcases fields found isField with ⟨id, isMember, inspects⟩
  rw [(fieldCandidate_ok inspects).1]
  exact isMember

/-- The types of the candidates are found in the order of their visit. -/
theorem types_sublist {ids : List TypeId} {verdicts : List (Option Candidate)}
    (pairs : List.Forall₂ (fun id verdict => inspectType markers module id = .ok verdict) ids
      verdicts) :
    ((verdicts.filterMap fun verdict => verdict).map (·.type)).Sublist ids := by
  induction pairs with
  | nil => exact List.nil_sublist []
  | cons first others ih =>
      rename_i id verdict ids verdicts
      rcases verdict with _ | candidate
      · exact ih.cons id
      · rw [List.filterMap_cons, List.map_cons, (inspectType_ok first).1]
        exact ih.cons_cons id

/-- No type is a candidate twice. -/
theorem candidates_nodup (surveyed : ofModule markers module symbols = .ok survey) :
    (survey.candidates.map (·.type)).Nodup := by
  rcases ofModule_ok surveyed with ⟨verdicts, inspected, candidates_eq⟩
  rw [candidates_eq]
  exact (types_sublist (mapM_eq_ok_iff.mp inspected)).nodup module.nestOrder_nodup

end Survey

end Reload

end Rekindle
