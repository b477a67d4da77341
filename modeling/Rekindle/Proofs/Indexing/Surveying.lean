import Rekindle.Proofs.Indexing.Access
import Rekindle.Reload.Survey

/-!
# Surveying a module by position

The survey runs before the module is checked beyond its nesting, and by itself on a module that was
not checked at all. It keeps a stack of the types that are pending and marks those it has visited. A
mark is looked for before a type is looked up, so the handles that lead nowhere are passed over, and
a type is visited once however often it is listed.
-/

namespace Rekindle.Indexing

open Fallible Rekindle.Module Reload

variable {markers : Markers} {module : Module} {symbols : Option Symbols}

/-- The types nested in a type, and the verdict on it. -/
def inspect (markers : Markers) (module : Module) (id : TypeId) :
    Run Fault (List TypeId × Option Candidate) := do
  let type ← typeAt module id
  let verdict ← within (Survey.inspectType markers module id)
  return (type.nested, verdict)

/-- A survey with the verdict on one more type. -/
def noted (markers : Markers) (symbols : Option Symbols) (survey : Survey)
    (verdict : Option Candidate) : Survey where
  candidates := survey.candidates ++ verdict.toList
  diagnostics := survey.diagnostics ++ verdict.toList.flatMap (Survey.warnings markers symbols)
  visited := survey.visited + 1

/-- Visits the pending types that are not marked yet, and what is nested in them. -/
def scan (markers : Markers) (module : Module) (symbols : Option Symbols) (marks : Array Bool)
    (pending : List TypeId) (survey : Survey) : Run Fault Survey :=
  match pending with
  | [] => .ok survey
  | id :: others =>
    match seen : marks[id.position]? with
    | some false => do
      have := count_unmarked_lt seen
      let (nested, verdict) ← inspect markers module id
      scan markers module symbols (marks.setIfInBounds id.position true) (nested ++ others)
        (noted markers symbols survey verdict)
    | some true | none => scan markers module symbols marks others survey
termination_by (marks.count false, pending.length)

def survey (markers : Markers) (module : Module) (symbols : Option Symbols) : Run Fault Survey :=
  scan markers module symbols (Array.replicate module.types.size false) module.topLevel
    { candidates := [], diagnostics := [], visited := 0 }

/-! ### The accumulated survey -/

theorem foldl_noted (verdicts : List (Option Candidate)) (survey : Survey) :
    verdicts.foldl (noted markers symbols) survey =
      { candidates := survey.candidates ++ verdicts.filterMap fun found => found
        diagnostics := survey.diagnostics ++
          (verdicts.filterMap fun found => found).flatMap (Survey.warnings markers symbols)
        visited := survey.visited + verdicts.length } := by
  induction verdicts generalizing survey with
  | nil => simp
  | cons verdict verdicts ih =>
      rw [List.foldl_cons, ih]
      cases verdict with
      | none => simp [noted, Nat.add_assoc, Nat.add_comm 1]
      | some candidate => simp [noted, Nat.add_assoc, Nat.add_comm 1]

theorem length_of_mapM {ε α β : Type} {items : List α} {compute : α → Except ε β}
    {results : List β} (computed : items.mapM compute = .ok results) :
    results.length = items.length :=
  (mapM_eq_ok_iff.mp computed).length_eq.symm

/-! ### The visits -/

theorem inspect_eq {id : TypeId} (inside : id.position < module.types.size) :
    inspect markers module id =
      within ((Survey.inspectType markers module id).map (module.nestedIn id, ·)) := by
  obtain ⟨type, declared⟩ : ∃ type, module.type? id = some type :=
    ⟨_, Array.getElem?_eq_getElem inside⟩
  unfold inspect nestedIn
  rw [typeAt_of_some declared, ok_bind, declared]
  rcases Survey.inspectType markers module id with _ | verdict <;> rfl

theorem scan_within {marks : Array Bool} {pending : List TypeId} {survey : Survey}
    (sizes : marks.size = module.types.size) :
    scan markers module symbols marks pending survey =
      within ((module.visit marks pending).mapM (Survey.inspectType markers module) >>=
        fun verdicts => .ok (verdicts.foldl (noted markers symbols) survey)) := by
  fun_induction Module.visit module marks pending generalizing survey with
  | case1 marks => rw [scan]; rfl
  | case2 marks id others seen lower ih =>
      have inside : id.position < module.types.size :=
        sizes ▸ (Array.getElem?_eq_some_iff.mp seen).1
      have unfolded : scan markers module symbols marks (id :: others) survey =
          inspect markers module id >>= fun inspected =>
            scan markers module symbols (marks.setIfInBounds id.position true)
              (inspected.1 ++ others) (noted markers symbols survey inspected.2) := by
        rw [scan]
        split
        · rfl
        · rename_i marked
          cases seen.symm.trans marked
        · rename_i outside
          cases seen.symm.trans outside
      rw [unfolded, inspect_eq inside, List.mapM_cons]
      rcases Survey.inspectType markers module id with fault | verdict
      · rfl
      · have marked : (marks.setIfInBounds id.position true).size = module.types.size :=
          Array.size_setIfInBounds.trans sizes
        refine (ih marked).trans ?_
        rw [ok_bind]
        rcases (module.visit (marks.setIfInBounds id.position true)
          (module.nestedIn id ++ others)).mapM (Survey.inspectType markers module) with _ | verdicts
        · rfl
        · rfl
  | case3 marks id others marked ih =>
      rw [scan]
      split
      · rename_i unmarked
        cases marked.symm.trans unmarked
      · exact ih sizes
      · exact ih sizes
  | case4 marks id others outside ih =>
      rw [scan]
      split
      · rename_i inside
        cases outside.symm.trans inside
      · exact ih sizes
      · exact ih sizes

/-- The survey of a module stays within its tables and its marks. -/
theorem survey_within (markers : Markers) (module : Module) (symbols : Option Symbols) :
    survey markers module symbols = within (Survey.ofModule markers module symbols) := by
  unfold survey Survey.ofModule
  rw [scan_within Array.size_replicate]
  refine congrArg within ?_
  change (module.nestOrder.mapM _ >>= _) = _
  rcases computed : module.nestOrder.mapM (Survey.inspectType markers module) with _ | verdicts
  · rfl
  · rw [ok_bind, foldl_noted, ← length_of_mapM computed]
    simp

end Rekindle.Indexing
