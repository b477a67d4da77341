import Rekindle.Proofs.Nest.Visiting
import Rekindle.Proofs.Reload.Inspecting

/-!
# The scan of a module

A scan takes one pending type after the other. A type that was visited or does not exist is passed
over; any other is marked and looked at, and what is nested in it is pending next. However the lists
of nested types loop, repeat or lead nowhere, a scan that comes to its end has looked once at each
type that the top level leads to, and what it found is what looking at these types says.
-/

namespace Rekindle.Reload.Survey

open Relation Fallible
open Rekindle.Module (ListsNested Preordered)

/-- A scan that is going on: the marks of the types, those that are pending with the next one first,
what was found so far, and the types that were looked at, in their order. -/
structure Scan where
  marks : Array Bool
  pending : List TypeId
  found : Survey
  inspected : List TypeId

def Scan.start (module : Module) : Scan where
  marks := Array.replicate module.types.size false
  pending := module.topLevel
  found := { candidates := [], diagnostics := [], visited := 0 }
  inspected := []

section Scans

variable (markers : Markers) (module : Module) (symbols : Option Symbols)

/-- One turn of a scan. There is none from a type that cannot be looked at. -/
inductive Turn : Scan → Scan → Prop
  | look {marks : Array Bool} {id : TypeId} {others inspected : List TypeId} {found : Survey}
      {type : TypeDecl} {verdict : Option Candidate} {diagnostics : List Diagnostic}
      (unseen : marks[id.position]? = some false) (declared : module.type? id = some type)
      (looked : inspect markers module symbols id found.diagnostics = (.ok verdict, diagnostics)) :
      Turn ⟨marks, id :: others, found, inspected⟩
        ⟨marks.setIfInBounds id.position true, type.nested ++ others,
          { candidates := found.candidates ++ verdict.toList
            diagnostics
            visited := found.visited + 1 },
          inspected ++ [id]⟩
  | pass {marks : Array Bool} {id : TypeId} {others inspected : List TypeId} {found : Survey}
      (seen : marks[id.position]? ≠ some false) :
      Turn ⟨marks, id :: others, found, inspected⟩ ⟨marks, others, found, inspected⟩

/-- A survey holds what looking at some types says, in their order. -/
structure Reports (ids : List TypeId) (survey : Survey) : Prop where
  verdicts : ∃ verdicts,
    List.Forall₂ (fun id verdict => inspectType markers module id = .ok verdict) ids verdicts ∧
      survey.candidates = verdicts.filterMap fun verdict => verdict
  diagnostics : survey.diagnostics = ids.flatMap fun id => (inspect markers module symbols id []).2
  visited : survey.visited = ids.length

variable {markers module symbols}

/-! ### Reports -/

theorem inspect_diagnostics {id : TypeId} {verdict : Option Candidate}
    (inspected : inspectType markers module id = .ok verdict) :
    (inspect markers module symbols id []).2 =
      verdict.toList.flatMap (warnings markers symbols) := by
  rw [inspect_of_ok inspected, List.nil_append]

theorem diagnostics_of_verdicts {ids : List TypeId} {verdicts : List (Option Candidate)}
    (pairs : List.Forall₂ (fun id verdict => inspectType markers module id = .ok verdict) ids
      verdicts) :
    (verdicts.filterMap fun verdict => verdict).flatMap (warnings markers symbols) =
      ids.flatMap fun id => (inspect markers module symbols id []).2 := by
  induction pairs with
  | nil => rfl
  | @cons _ verdict _ _ inspected _ ih =>
      rw [List.flatMap_cons, inspect_diagnostics inspected, ← ih]
      cases verdict with
      | none => simp
      | some candidate => simp

/-- The survey of a module holds what looking at the types of the nest says. -/
theorem ofModule_eq_ok_iff {survey : Survey} :
    ofModule markers module symbols = .ok survey ↔
      Reports markers module symbols module.nestOrder survey := by
  simp only [ofModule, bind_eq_ok_iff, pure_eq_ok, Except.ok.injEq, mapM_eq_ok_iff]
  constructor
  · rintro ⟨verdicts, pairs, rfl⟩
    exact ⟨⟨verdicts, pairs, rfl⟩, diagnostics_of_verdicts pairs, rfl⟩
  · rintro ⟨⟨verdicts, pairs, candidates⟩, diagnostics, visited⟩
    refine ⟨verdicts, pairs, ?_⟩
    rw [diagnostics_of_verdicts pairs, ← candidates, ← diagnostics, ← visited]

theorem Reports.nil :
    Reports markers module symbols [] { candidates := [], diagnostics := [], visited := 0 } :=
  ⟨⟨[], .nil, rfl⟩, rfl, rfl⟩

theorem Reports.concat {ids : List TypeId} {survey : Survey}
    (reports : Reports markers module symbols ids survey) {id : TypeId}
    {verdict : Option Candidate} {diagnostics : List Diagnostic}
    (looked : inspect markers module symbols id survey.diagnostics = (.ok verdict, diagnostics)) :
    Reports markers module symbols (ids ++ [id])
      { candidates := survey.candidates ++ verdict.toList
        diagnostics
        visited := survey.visited + 1 } := by
  have inspected := inspectType_of_inspect looked
  rw [inspect_of_ok inspected] at looked
  cases looked
  rcases reports with ⟨⟨verdicts, pairs, candidates⟩, diagnostics, visited⟩
  refine ⟨⟨verdicts ++ [verdict], List.rel_append pairs (.cons inspected .nil), ?_⟩, ?_, ?_⟩
  · rw [List.filterMap_append, ← candidates]
    cases verdict <;> rfl
  · rw [List.flatMap_append, List.flatMap_singleton, inspect_diagnostics inspected, diagnostics]
  · rw [visited, List.length_append, List.length_singleton]

/-! ### What a turn keeps -/

/-- What is true of a scan between its turns: the types that were looked at, followed by those that
are yet to be visited, are those of the nest, and what was found is what looking at the former
says. -/
structure Scan.Steady (markers : Markers) (module : Module) (symbols : Option Symbols)
    (scan : Scan) : Prop where
  sizes : scan.marks.size = module.types.size
  order : scan.inspected ++ module.visit scan.marks scan.pending = module.nestOrder
  reports : Reports markers module symbols scan.inspected scan.found

theorem Scan.steady_start : (Scan.start module).Steady markers module symbols :=
  ⟨Array.size_replicate, rfl, .nil⟩

theorem Turn.steady {scan next : Scan} (turn : Turn markers module symbols scan next)
    (steady : scan.Steady markers module symbols) : next.Steady markers module symbols := by
  rcases steady with ⟨sizes, order, reports⟩
  cases turn with
  | look unseen declared looked =>
      refine ⟨Array.size_setIfInBounds.trans sizes, ?_, reports.concat looked⟩
      rw [← order, Module.visit_fresh unseen, Module.nestedIn, declared, List.append_assoc]
      rfl
  | pass seen =>
      refine ⟨sizes, ?_, reports⟩
      rw [← order, Module.visit_stale seen]

theorem steady_of_turns {scan : Scan}
    (turns : ReflTransGen (Turn markers module symbols) (Scan.start module) scan) :
    scan.Steady markers module symbols := by
  induction turns with
  | refl => exact Scan.steady_start
  | tail _ turn ih => exact turn.steady ih

/-- A scan that has come to its end has looked at the types of the nest. -/
theorem Scan.Steady.ended {scan : Scan} (steady : scan.Steady markers module symbols)
    (ended : scan.pending = []) :
    scan.inspected = module.nestOrder ∧ Reports markers module symbols module.nestOrder scan.found := by
  have order := steady.order
  rw [ended, Module.visit, List.append_nil] at order
  exact ⟨order, order ▸ steady.reports⟩

/-! ### Scans that come to an end -/

/-- A turn marks one more type or, marking none, has fewer types pending. -/
theorem Turn.fewer {scan next : Scan} (turn : Turn markers module symbols scan next) :
    next.marks.count false < scan.marks.count false ∨
      next.marks.count false = scan.marks.count false ∧
        next.pending.length < scan.pending.length := by
  cases turn with
  | look unseen _ _ => exact .inl (Module.count_unmarked_lt unseen)
  | pass _ => exact .inr ⟨rfl, Nat.lt_succ_self _⟩

/-- No scan goes on for ever. -/
theorem wellFounded_turns : WellFounded fun next scan => Turn markers module symbols scan next := by
  let size (scan : Scan) : Nat × Nat := (scan.marks.count false, scan.pending.length)
  have descends : ∀ {next scan}, Turn markers module symbols scan next →
      InvImage (Prod.Lex Nat.lt Nat.lt) size next scan := fun turn => Prod.lex_def.mpr turn.fewer
  exact Subrelation.wf descends (InvImage.wf size (Prod.lex Nat.lt_wfRel Nat.lt_wfRel).wf)

/-- A scan comes to its end if all types that it is yet to visit can be looked at. -/
theorem turns_of_verdicts (symbols : Option Symbols) {marks : Array Bool} {pending : List TypeId}
    (sizes : marks.size = module.types.size) {verdicts : List (Option Candidate)}
    (pairs : List.Forall₂ (fun id verdict => inspectType markers module id = .ok verdict)
      (module.visit marks pending) verdicts) (found : Survey) (inspected : List TypeId) :
    ∃ last, ReflTransGen (Turn markers module symbols) ⟨marks, pending, found, inspected⟩ last ∧
      last.pending = [] := by
  induction marks, pending using Module.visits_induct module
    generalizing verdicts found inspected with
  | nothing marks => exact ⟨_, .refl, rfl⟩
  | fresh marks id others fresh ih =>
      rw [Module.visit_fresh fresh] at pairs
      rcases List.forall₂_cons_left_iff.mp pairs with ⟨verdict, verdicts, here, later, rfl⟩
      have inside : id.position < module.types.size :=
        sizes ▸ (Array.getElem?_eq_some_iff.mp fresh).1
      rcases Indexing.exists_type inside with ⟨type, declared⟩
      have nested : module.nestedIn id = type.nested := by rw [Module.nestedIn, declared]
      rw [nested] at later ih
      rcases ih (Array.size_setIfInBounds.trans sizes) later _ _ with ⟨last, turns, ended⟩
      exact ⟨last, .head (.look fresh declared (inspect_of_ok here symbols _)) turns, ended⟩
  | stale marks id others stale ih =>
      rw [Module.visit_stale stale] at pairs
      rcases ih sizes pairs found inspected with ⟨last, turns, ended⟩
      exact ⟨last, .head (.pass stale) turns, ended⟩

/-- The survey of a module is what a scan that comes to its end has found. -/
theorem ofModule_eq_ok_iff_turns {survey : Survey} :
    ofModule markers module symbols = .ok survey ↔
      ∃ marks inspected, ReflTransGen (Turn markers module symbols) (Scan.start module)
        ⟨marks, [], survey, inspected⟩ := by
  constructor
  · intro surveyed
    rcases ofModule_eq_ok_iff.mp surveyed with ⟨⟨verdicts, pairs, _⟩, _⟩
    rcases turns_of_verdicts symbols Array.size_replicate pairs
      { candidates := [], diagnostics := [], visited := 0 } [] with
      ⟨⟨marks, pending, found, inspected⟩, turns, ended⟩
    cases ended
    have same := ofModule_eq_ok_iff.mpr ((steady_of_turns turns).ended rfl).2
    rw [surveyed] at same
    cases same
    exact ⟨marks, inspected, turns⟩
  · rintro ⟨marks, inspected, turns⟩
    exact ofModule_eq_ok_iff.mpr ((steady_of_turns turns).ended rfl).2

/-- Every scan stops, and a survey of a module is found exactly when the scan has come to its end. By
then it has looked once at each type that exists and that the top level leads to, and at no other,
and it found what looking at these types says, in their order. If the nesting is a forest, these are
all types, an outer type comes before the types nested in it, and the whole nest of a type comes
before its next sibling. -/
theorem scan_exact (markers : Markers) (module : Module) (symbols : Option Symbols) :
    (WellFounded fun next scan => Turn markers module symbols scan next) ∧
      (∀ survey, ofModule markers module symbols = .ok survey ↔
        ∃ marks inspected, ReflTransGen (Turn markers module symbols) (Scan.start module)
          ⟨marks, [], survey, inspected⟩) ∧
      ∀ marks survey inspected,
        ReflTransGen (Turn markers module symbols) (Scan.start module)
            ⟨marks, [], survey, inspected⟩ →
          inspected.Nodup ∧
          (∀ id, id ∈ inspected ↔ id.position < module.types.size ∧
            ∃ root ∈ module.topLevel, ReflTransGen (ListsNested module) root id) ∧
          Reports markers module symbols inspected survey ∧
          (Validity.checkNesting module = .ok () →
            (∀ id : TypeId, id.position < module.types.size → id ∈ inspected) ∧
              Preordered module inspected) := by
  refine ⟨wellFounded_turns, fun survey => ofModule_eq_ok_iff_turns,
    fun marks survey inspected turns => ?_⟩
  rcases (steady_of_turns turns).ended rfl with ⟨same, reports⟩
  cases same
  refine ⟨module.nestOrder_nodup, fun _ => Module.mem_nestOrder_iff, reports, fun accepted => ?_⟩
  have forest : module.IsForest :=
    Module.nested_iff_isForest.mp (Validity.checkNesting_eq_ok_iff.mp accepted)
  exact ⟨fun _ => forest.mem_nestOrder, forest.preordered⟩

end Scans

/-! ### A nest that loops -/

namespace Maze

/-- A hall and a stair that lead to each other. The hall lists the stair twice and a type that does
not exist, and so does the top level. Nothing leads to the cellar. -/
def module : Module where
  name := "app"
  identity := Vector.replicate 16 0
  references := []
  types := #[
    { TypeDecl.named "Hall" with
      attributes := [.bare "DotReload.ReloadOnEnterAttribute"]
      fields := [⟨0⟩]
      nested := [⟨1⟩, ⟨1⟩, ⟨7⟩] },
    { TypeDecl.named "Stair" with nested := [⟨0⟩] },
    TypeDecl.named "Cellar"]
  fields := #[FieldDecl.static "doors" .int32]
  routines := #[]
  topLevel := [⟨9⟩, ⟨0⟩, ⟨0⟩]

def survey : Survey where
  candidates := [{
    type := ⟨0⟩
    fullName := "Hall"
    fields := [{ field := ⟨0⟩, name := "doors", isReadOnly := false, isForced := false }]
    teardowns := [] }]
  diagnostics := []
  visited := 2

theorem surveyed : ofModule {} module none = .ok survey := by cbv

end Maze

theorem surveyed_cupboard :
    ofModule {} Module.Cupboard.module none =
      .ok { candidates := [], diagnostics := [], visited := 4 } := by
  cbv

/-- The scan of the maze looks at the hall and at the stair, and that of the cupboard at everything,
in reading order. -/
theorem scan_exact_maze :
    (∃ marks inspected, ReflTransGen (Turn {} Maze.module none) (Scan.start Maze.module)
        ⟨marks, [], Maze.survey, inspected⟩ ∧
      inspected.Nodup ∧ inspected.length = 2 ∧ ⟨0⟩ ∈ inspected ∧ ⟨1⟩ ∈ inspected) ∧
      ∃ marks survey inspected,
        ReflTransGen (Turn {} Module.Cupboard.module none) (Scan.start Module.Cupboard.module)
            ⟨marks, [], survey, inspected⟩ ∧
          ⟨2⟩ ∈ inspected ∧ Preordered Module.Cupboard.module inspected := by
  constructor
  · rcases scan_exact {} Maze.module none with ⟨_, ends, exact⟩
    rcases (ends Maze.survey).mp Maze.surveyed with ⟨marks, inspected, turns⟩
    rcases exact marks Maze.survey inspected turns with ⟨nodup, reached, reports, _⟩
    have hall : (⟨0⟩ : TypeId) ∈ Maze.module.topLevel := by decide
    have stair : ListsNested Maze.module ⟨0⟩ ⟨1⟩ := ⟨_, rfl, by decide⟩
    refine ⟨marks, inspected, turns, nodup, reports.visited.symm, ?_, ?_⟩
    · exact (reached ⟨0⟩).mpr ⟨by decide, ⟨0⟩, hall, .refl⟩
    · exact (reached ⟨1⟩).mpr ⟨by decide, ⟨0⟩, hall, .single stair⟩
  · rcases scan_exact {} Module.Cupboard.module none with ⟨_, ends, exact⟩
    rcases (ends _).mp surveyed_cupboard with ⟨marks, inspected, turns⟩
    rcases exact marks _ inspected turns with ⟨_, _, _, ordered⟩
    rcases ordered Module.Cupboard.accepted with ⟨all, preordered⟩
    exact ⟨marks, _, inspected, turns, all ⟨2⟩ (by decide), preordered⟩

end Rekindle.Reload.Survey
