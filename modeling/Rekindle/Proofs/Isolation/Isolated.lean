import Rekindle.Machine.Host
import Rekindle.Proofs.Isolation.Steps
import Rekindle.Proofs.Validity.Valid

/-!
# Isolation of modules

A host that asks something of a module hears what it would hear if the module were alone, as long
as nothing that refers to another module is handed over or was stored before. The other modules
never notice: all that is stored for them stays as it was.
-/

namespace Rekindle.Machine

open Fallible

/-- What a host asks of one module. -/
inductive Visit where
  | invoke (routine : RoutineId) (arguments : List ValueType) (parameters : List Value)
  | read (field : FieldId) (arguments : List ValueType)
  | write (field : FieldId) (arguments : List ValueType) (value : Value)
deriving DecidableEq, Repr

namespace Visit

/-- What the host is told: the value that a routine gives or a field holds, if there is one. -/
def answer (visit : Visit) (limits : Limits) (steps : Nat) (store : Store)
    (handle : ModuleHandle) : Answer (Option Value) :=
  match visit with
  | .invoke routine arguments parameters =>
    store.invoke limits steps handle routine arguments parameters
  | .read field arguments =>
    (store.readField limits steps handle field arguments).map (Prod.map id (Except.map some))
  | .write field arguments value =>
    (store.writeField limits steps handle field arguments value).map
      (Prod.map id (Except.map fun _ => none))

/-- What a host asks of a module where the module is alone. -/
def relocate (home : ModuleHandle) : Visit → Visit
  | .invoke routine arguments parameters =>
    .invoke routine arguments (parameters.map (Value.relocate home))
  | .read field arguments => .read field arguments
  | .write field arguments value => .write field arguments (value.relocate home)

/-- A host that hands over nothing that leads outside a scope. -/
def Within (scope : Scope) : Visit → Prop
  | .invoke _ _ parameters => ∀ value ∈ parameters, value.Within scope
  | .read _ _ => True
  | .write _ _ value => value.Within scope

end Visit

/-- An answer by a module that spares the others, and the answer where the module is alone. -/
structure Isolates (home : ModuleHandle) (store : Store) {α : Type} (change : α → α)
    (answer other : Answer α) : Prop where
  same : other = answer.map (Prod.map (Store.alone home) (relocateResult home change))
  spares : ∀ after result, answer = some (after, result) → store.Spares home after

variable {home : ModuleHandle} {store after : Store} {limits : Limits} {steps : Nat} {α : Type}
  {change : α → α}

/-! ### What the host names -/

theorem relocates_checkArguments (module : Module) (type : TypeId) (arguments : List ValueType)
    (member : String) :
    Relocates home id (fun _ => True) (Store.checkArguments module type arguments member)
      (Store.checkArguments module type arguments member) := by
  unfold Store.checkArguments
  split
  · exact .error trivial
  · split
    · exact .error trivial
    · split
      · exact .error trivial
      · exact .ok trivial

theorem relocates_hostTarget (store : Store) (home : ModuleHandle) (routine : RoutineId)
    (arguments : List ValueType) :
    Relocates home (BoundRoutine.relocate home) (fun target => target.module = home)
      (store.hostTarget home routine arguments)
      ((store.alone home).hostTarget (home.relocate home) routine arguments) := by
  refine (Store.relocates_module store home).bind fun module _ => ?_
  simp only [id]
  rcases module.routine? routine with _ | declared
  · exact .error trivial
  · exact (relocates_checkArguments module declared.owner arguments _).bind fun _ _ => .ok rfl

theorem relocates_hostAddress (store : Store) (home : ModuleHandle) (field : FieldId)
    (arguments : List ValueType) :
    Relocates home (Address.relocate home) (fun place => place.instantiation.module = home)
      (store.hostAddress home field arguments)
      ((store.alone home).hostAddress (home.relocate home) field arguments) := by
  refine (Store.relocates_module store home).bind fun module _ => ?_
  simp only [id]
  rcases found : module.field? field with _ | declared
  · exact .error trivial
  · simp only
    split
    · exact .error trivial
    · refine (relocates_checkArguments module declared.owner arguments _).bind fun _ _ => ?_
      simp only [Store.slotOf, found]
      cases module.type? declared.owner with
      | none => exact .ok rfl
      | some type => exact .ok rfl

/-! ### What the host is told -/

theorem Store.Encloses.isolates_error (encloses : store.Encloses home) (trap : Trap) :
    Isolates home store change (some (store, .error trap))
      (some (store.alone home, .error (trap.relocate home))) := by
  refine ⟨rfl, ?_⟩
  rintro after result ⟨⟩
  exact encloses.spares

theorem isolates_invoke (encloses : store.Encloses home) (routine : RoutineId)
    (arguments : List ValueType) {parameters : List Value}
    (known : ∀ value ∈ parameters, value.Within home.reach) :
    Isolates home store (Option.map (Value.relocate home))
      (store.invoke limits steps home routine arguments parameters)
      ((store.alone home).invoke limits steps (home.relocate home) routine arguments
        (parameters.map (Value.relocate home))) := by
  unfold Store.invoke
  rcases (relocates_hostTarget store home routine arguments).outcome with
    ⟨target, one, other, own⟩ | ⟨trap, one, other, _⟩
  · simp only [one, other]
    have inside : (Activation.call target parameters).Inside home := ⟨own, known⟩
    rcases run_corresponds limits.callDepth hostThread encloses
      (List.forall_mem_singleton.mpr inside) steps with ⟨same, spares⟩
    exact ⟨same, spares⟩
  · simp only [one, other]
    exact encloses.isolates_error trap

theorem isolates_useField (encloses : store.Encloses home) (field : FieldId)
    (arguments : List ValueType) {use another : Store → Address → Except Trap (Store × α)}
    (uses : ∀ after place, after.Encloses home → place.instantiation.module = home →
      Relocates home (Prod.map (Store.alone home) change)
        (fun used => after.Spares home used.1) (use after place)
        (another (after.alone home) (place.relocate home))) :
    Isolates home store change (store.useField limits steps home field arguments use)
      ((store.alone home).useField limits steps (home.relocate home) field arguments another) := by
  unfold Store.useField
  rcases (relocates_hostAddress store home field arguments).outcome with
    ⟨place, one, other, own⟩ | ⟨trap, one, other, _⟩
  · simp only [one, other]
    have inside : (Activation.access place.instantiation).Inside home := own
    rcases run_corresponds limits.callDepth hostThread encloses
      (List.forall_mem_singleton.mpr inside) steps with ⟨same, spares⟩
    have access_eq : (place.relocate home).instantiation = place.instantiation.relocate home := rfl
    simp only [List.map_cons, List.map_nil, Activation.relocate] at same
    simp only [access_eq, same]
    rcases runs : run limits.callDepth hostThread steps store [.access place.instantiation] with
      _ | ⟨ready, trap | result⟩
    · exact ⟨rfl, by simp⟩
    · refine ⟨rfl, ?_⟩
      rintro after result ⟨⟩
      exact spares ready _ runs
    · have spared := spares ready _ runs
      have used := (uses ready place spared.encloses own).outcome
      simp only [Option.map_some, Prod.map, relocateResult, Except.mapError, Except.map]
      rcases used with ⟨⟨last, given⟩, used, usedToo, more⟩ | ⟨trap, used, usedToo, _⟩
      · simp only [used, usedToo]
        refine ⟨rfl, ?_⟩
        rintro after result ⟨⟩
        exact spared.trans more
      · simp only [used, usedToo]
        refine ⟨rfl, ?_⟩
        rintro after result ⟨⟩
        exact spared
  · simp only [one, other]
    exact encloses.isolates_error trap

theorem isolates_readField (encloses : store.Encloses home) (field : FieldId)
    (arguments : List ValueType) :
    Isolates home store (Value.relocate home)
      (store.readField limits steps home field arguments)
      ((store.alone home).readField limits steps (home.relocate home) field arguments) := by
  refine isolates_useField encloses field arguments fun after place encloses own => ?_
  rw [Store.slot?_alone after own]
  cases after.slot? place with
  | none => exact .error trivial
  | some value => exact .ok encloses.spares

theorem isolates_writeField (encloses : store.Encloses home) (field : FieldId)
    (arguments : List ValueType) {value : Value} (known : value.Within home.reach) :
    Isolates home store id (store.writeField limits steps home field arguments value)
      ((store.alone home).writeField limits steps (home.relocate home) field arguments
        (value.relocate home)) := by
  refine isolates_useField encloses field arguments fun after place encloses own => ?_
  rw [Store.slot?_alone after own, ← Store.alone_setSlot after own]
  cases after.slot? place with
  | none => exact .error trivial
  | some held => exact .ok (encloses.setSlot own known)

/-- Telling the host less of an answer, or the same in another form. -/
theorem Isolates.told {β : Type} {further : β → β} {tells : α → β} {answer other : Answer α}
    (isolates : Isolates home store change answer other)
    (agrees : ∀ value, further (tells value) = tells (change value)) :
    Isolates home store further (answer.map (Prod.map id (Except.map tells)))
      (other.map (Prod.map id (Except.map tells))) := by
  rcases isolates with ⟨rfl, spares⟩
  rcases answer with _ | ⟨ready, trap | value⟩
  · exact ⟨rfl, by simp⟩
  · refine ⟨rfl, ?_⟩
    rintro after result ⟨⟩
    exact spares ready _ rfl
  · refine ⟨?_, ?_⟩
    · simp [relocateResult, Except.mapError, Except.map, agrees]
    · rintro after result ⟨⟩
      exact spares ready _ rfl

/-! ### Main result -/

/-- A host that asks something of a module, of which nothing leads to another module, is told what
it would be told if the module were alone, up to the handle of the module. What is stored for the
types of the other modules, their values and how far their initialization has come, stays as it
was, and still nothing of the module leads to another one. -/
theorem Visit.isolated (limits : Limits) (steps : Nat) (store : Store) (home : ModuleHandle)
    (visit : Visit) (encloses : store.Encloses home) (known : visit.Within home.reach) :
    (visit.relocate home).answer limits steps (store.alone home) ⟨0⟩ =
        (visit.answer limits steps store home).map
          (Prod.map (Store.alone home) (relocateResult home (Option.map (Value.relocate home)))) ∧
      ∀ after result, visit.answer limits steps store home = some (after, result) →
        (∀ instantiation, instantiation.module ≠ home →
          after.storage? instantiation = store.storage? instantiation) ∧ after.Encloses home := by
  have isolates : Isolates home store (Option.map (Value.relocate home))
      (visit.answer limits steps store home)
      ((visit.relocate home).answer limits steps (store.alone home) (home.relocate home)) := by
    cases visit with
    | invoke routine arguments parameters => exact isolates_invoke encloses routine arguments known
    | read field arguments => exact (isolates_readField encloses field arguments).told fun _ => rfl
    | write field arguments value =>
        exact (isolates_writeField encloses field arguments known).told fun _ => rfl
  rw [ModuleHandle.relocate_self] at isolates
  refine ⟨isolates.same, ?_⟩
  intro after result answers
  have spares := isolates.spares after result answers
  exact ⟨spares.others, spares.encloses⟩

/-! ### Two bells -/

namespace Bell

def strokes : FieldRef := ⟨⟨0⟩, .direct⟩

def clapper : FieldRef := ⟨⟨1⟩, .direct⟩

def routine (name : String) (instructions : Array Instruction) : RoutineDecl :=
  .static name .void { Body.returning with instructions }

/-- A module with a bell: it counts its strokes and is rung through a callback. -/
def module : Module where
  name := "app"
  identity := Vector.replicate 16 0
  references := []
  types := #[{ TypeDecl.named "Bell" with fields := [⟨0⟩, ⟨1⟩], routines := [⟨0⟩, ⟨1⟩] }]
  fields := #[.static "strokes" .int32, .static "clapper" .callback]
  routines := #[
    routine "strike" #[.loadField strokes, .loadInt32 1, .add, .storeField strokes, .ret],
    routine "ring" #[.loadField clapper, .invokeCallback, .ret]]
  topLevel := [⟨0⟩]

def second : ModuleHandle := ⟨1⟩

/-- A machine with two bells. -/
def tower : Store := { Store.empty with modules := #[module, module] }

/-- A callback that strikes the second bell. -/
def striking : Store × Value := tower.newCallback [⟨second, ⟨0⟩, []⟩]

def hang : Visit := .write ⟨1⟩ [] striking.2

def ring : Visit := .invoke ⟨1⟩ [] []

def hung : Store := ((hang.answer {} 60 striking.1 second).map (·.1)).getD .empty

def rung : Store := ((ring.answer {} 60 hung second).map (·.1)).getD .empty

theorem accepted : Validity.checkModule module = .ok () :=
  Validity.checkModule_ok (by cbv) rfl rfl (by cbv)

/-- The second bell is rung as if there were no first one, which is not touched. -/
theorem isolated_bell :
    (∃ first, Store.empty.load module = .ok (first, ⟨0⟩) ∧
      first.load module = .ok (tower, second)) ∧
      Store.empty.load module = .ok (tower.alone second, ⟨0⟩) ∧
      ring.answer {} 60 hung second = some (rung, .ok none) ∧
      rung.slot? ⟨⟨second, ⟨0⟩, []⟩, 0⟩ = some (.int32 1) ∧
      ring.answer {} 60 (hung.alone second) ⟨0⟩ = some (rung.alone second, .ok none) ∧
      ∀ instantiation, instantiation.module ≠ second →
        rung.storage? instantiation = tower.storage? instantiation := by
  have loads : ∃ first, Store.empty.load module = .ok (first, ⟨0⟩) ∧
      first.load module = .ok (tower, second) := by
    simp only [Store.load, accepted]
    exact ⟨_, rfl, rfl⟩
  have hangs : hang.answer {} 60 striking.1 second = some (hung, .ok none) := rfl
  have rings : ring.answer {} 60 hung second = some (rung, .ok none) := rfl
  have encloses : striking.1.Encloses second := by
    intro place value _ found
    cases found
  have own : hang.Within second.reach := by
    intro target listed
    rw [List.mem_singleton.mp listed]
    rfl
  have isolated := Visit.isolated {} 60 striking.1 second hang encloses own
  rcases isolated.2 hung _ hangs with ⟨others, encloses⟩
  have isolated := Visit.isolated {} 60 hung second ring encloses (List.forall_mem_nil _)
  rcases isolated.2 rung _ rings with ⟨othersToo, _⟩
  have same := isolated.1
  rw [rings] at same
  refine ⟨loads, Store.load_alone rfl accepted, rings, rfl, same, ?_⟩
  intro instantiation apart
  rw [othersToo instantiation apart, others instantiation apart]
  rfl

end Bell

end Rekindle.Machine
