import Rekindle.Proofs.Machine.Domain

/-!
# Runs within a scope

While everything of the loaded modules is in a scope, nothing that a thread does leads outside of
it.
-/

namespace Rekindle.Machine

/-! ### Stores -/

namespace Store.Within

variable {scope : Scope} {thread : ThreadId} {store after : Store} {instantiation : Instantiation}
  {ticket : Ticket Trap} {storage : Storage}

theorem empty (scope : Scope) : Store.empty.Within scope := by
  intro place value found
  cases found

theorem ask (within : store.Within scope)
    (asked : store.Asked thread instantiation after ticket storage) : after.Within scope := by
  intro place value found
  rw [asked.slot?_eq] at found
  split at found
  · rename_i same
    rcases asked.storage_eq with present | ⟨_, module, type, _, _, fresh⟩
    · apply within place value
      rw [slot?, same, present]
      exact found
    · rw [fresh] at found
      exact freshStorage_within module type _ found
  · exact within place value found

theorem setSlot (within : store.Within scope) (place : Address) {value : Value}
    (known : value.Within scope) : (store.setSlot place value).Within scope := by
  intro other held found
  rw [slot?_setSlot] at found
  split at found
  · rcases Option.map_eq_some_iff.mp found with ⟨_, _, rfl⟩
    exact known
  · exact within other held found

theorem publish (within : store.Within scope) (instantiation : Instantiation)
    (outcome : Except Trap Unit) : (store.publish instantiation outcome).Within scope := by
  intro place value found
  rw [slot?_publish] at found
  exact within place value found

end Store.Within

/-- A scope with everything in it that belongs to the first modules. -/
structure Scope.Covers (scope : Scope) (count : Nat) : Prop where
  routines : ∀ target, target.module.position < count → scope.routines target
  places : ∀ place, place.instantiation.module.position < count → scope.places place

theorem Scope.Covers.mono {scope : Scope} {count fewer : Nat} (covers : scope.Covers count)
    (le : fewer ≤ count) : scope.Covers fewer :=
  ⟨fun target inside => covers.routines target (Nat.lt_of_lt_of_le inside le),
    fun place inside => covers.places place (Nat.lt_of_lt_of_le inside le)⟩

/-- A store with a number of modules that leads to nothing outside a scope. -/
structure Store.Confined (scope : Scope) (count : Nat) (store : Store) : Prop where
  size_eq : store.modules.size = count
  within : store.Within scope

/-- A part of a stack that leads to nothing outside a scope. -/
def Activation.Confined (scope : Scope) (count : Nat) : Activation → Prop
  | .body frame => frame.module.position < count ∧ frame.Within scope
  | .call _ parameters => ∀ value ∈ parameters, value.Within scope
  | .initializer _ | .targets _ | .access _ => True

/-- What a step leads to that leads to nothing outside a scope. -/
def Progress.Confined (scope : Scope) (count : Nat) : Progress → Prop
  | .running store activations =>
    store.Confined scope count ∧ ∀ activation ∈ activations, activation.Confined scope count
  | .blocked _ _ => True
  | .finished store _ => store.Confined scope count

variable {scope : Scope} {count limit : Nat} {thread : ThreadId} {store after : Store}
  {instantiation : Instantiation} {activations : List Activation}

namespace Store.Confined

theorem ask {ticket : Ticket Trap} {storage : Storage} (confined : store.Confined scope count)
    (asked : store.Asked thread instantiation after ticket storage) :
    after.Confined scope count :=
  ⟨asked.modules_eq ▸ confined.size_eq, confined.within.ask asked⟩

theorem setSlot (confined : store.Confined scope count) (place : Address) {value : Value}
    (known : value.Within scope) : (store.setSlot place value).Confined scope count :=
  ⟨confined.size_eq, confined.within.setSlot place known⟩

theorem publish (confined : store.Confined scope count) (instantiation : Instantiation)
    (outcome : Except Trap Unit) : (store.publish instantiation outcome).Confined scope count :=
  ⟨confined.size_eq, confined.within.publish instantiation outcome⟩

theorem touched (confined : store.Confined scope count) (touched : store.Touched scope after) :
    after.Confined scope count := by
  cases touched with
  | same => exact confined
  | wrote _ within => exact confined.setSlot _ within
  | issued => exact ⟨confined.size_eq, confined.within⟩

end Store.Confined

/-! ### Steps and runs -/

/-- Stores with a number of modules that lead to nothing outside a scope, and bodies of these
modules. -/
def confinement (scope : Scope) (count : Nat) : Domain where
  scope
  stores := Store.Confined scope count
  frames := fun frame => frame.module.position < count ∧ frame.Within scope
  calls := fun _ => True
  asks := fun _ => True

theorem Scope.Covers.isClosed (covers : scope.Covers count) :
    (confinement scope count).IsClosed where
  within confined := confined.within
  framesWithin known := known.2
  asked confined _ asked := by
    rcases Store.ask_ok asked with ⟨storage, asked⟩
    exact confined.ask asked
  published instantiation outcome confined := confined.publish instantiation outcome
  touched confined touched := confined.touched touched
  stays known stays := ⟨stays.module_eq ▸ known.1, stays.within⟩
  starts confined _ loaded _ _ within :=
    ⟨confined.size_eq ▸ (Array.getElem?_eq_some_iff.mp loaded).1, within⟩
  owned _ _ _ := trivial
  initializes _ _ _ := trivial
  leads _ := trivial
  binds _ known _ _ := covers.routines _ known.1
  places {store frame _ reference _} _ known _ _ located := by
    have reached := address_confined scope frame store reference
    rw [located] at reached
    rcases reached with ⟨module, field, _, _, instantiation_eq⟩
    refine ⟨trivial, covers.places _ ?_⟩
    rw [instantiation_eq]
    exact known.1

theorem Activation.confined_iff {activation : Activation} :
    activation.Confined scope count ↔ activation.Within (confinement scope count) := by
  cases activation <;> simp [Activation.Confined, Activation.Within, confinement]

section Runs

variable (covers : scope.Covers count) (confined : store.Confined scope count)
  (all : ∀ activation ∈ activations, activation.Confined scope count)
include covers confined all

/-- A step leads to nothing new outside a scope with everything of the loaded modules. -/
theorem step_confined : (step limit thread store activations).Confined scope count := by
  have stepped : (step limit thread store activations).Within (confinement scope count) :=
    step_within covers.isClosed confined fun activation listed =>
      Activation.confined_iff.mp (all activation listed)
  rcases progress : step limit thread store activations with
    ⟨after, next⟩ | ⟨after, next⟩ | ⟨after, ended⟩
  · rw [progress] at stepped
    exact ⟨stepped.1, fun activation listed =>
      Activation.confined_iff.mpr (stepped.2 activation listed)⟩
  · trivial
  · rw [progress] at stepped
    exact stepped.1

/-- A run leads to nothing new outside a scope with everything of the loaded modules. -/
theorem run_confined {steps : Nat} {result : Except Trap (Option Value)}
    (runs : run limit thread steps store activations = some (after, result)) :
    after.Confined scope count :=
  (run_within covers.isClosed confined (fun activation listed =>
    Activation.confined_iff.mp (all activation listed)) runs).1

end Runs

end Rekindle.Machine
