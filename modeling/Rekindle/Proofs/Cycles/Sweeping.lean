import Rekindle.Proofs.Cycles.Invoking
import Rekindle.Proofs.Cycles.Steps

/-!
# Sweeps

A cycle sweeps over the modules twice. For each of them, a sweep calls what its dispatcher lists
when the turn comes to it, and ends with the first call that fails. The machine is asked for a
garbage pass between the sweeps, when the first one did not fail.
-/

namespace Rekindle.Machine

open Fallible Reload

namespace Placed

variable (placed : Placed)

/-- What the slot of a dispatcher lists for an occasion. -/
def listed (store : Store) (occasion : Occasion) : List BoundRoutine :=
  match store.hostAddress placed.handle (placed.dispatcher.actions occasion) [] with
  | .ok place => (store.held place).targets
  | .error _ => []

/-- A module as a reloader knows it. -/
def reloadable : ReloadableModule where
  handle := placed.handle
  name := placed.module.name
  unload := placed.dispatcher.unload
  load := placed.dispatcher.load

end Placed

variable {limits : Limits} {store after : Store} {ledger : List Entry} {desk : Desk}

namespace Desk.Keeps

theorem hostAddress_eq (keeps : desk.Keeps ledger store) (occasion : Occasion) :
    store.hostAddress desk.handle (desk.dispatcher.actions occasion) [] =
      .ok (desk.site occasion).slot :=
  (desk.site occasion).hostAddress_eq keeps.loaded desk.tended.plain

/-- A ledger is what the dispatcher lists. -/
theorem listed_eq (keeps : desk.Keeps ledger store) (occasion : Occasion) :
    desk.listed store occasion = onOccasion occasion ledger := by
  rw [Placed.listed, keeps.hostAddress_eq occasion]
  exact (keeps.records occasion).targets_eq

theorem hostTarget_eq (keeps : desk.Keeps ledger store) (occasion : Occasion) :
    store.hostTarget desk.handle (desk.dispatcher.invoker occasion) [] =
      .ok (desk.invoker occasion) := by
  rcases desk.tended.invokes occasion with ⟨markers, name, declared⟩
  rcases (desk.site occasion).slot_listed with ⟨type, typeDeclared, _⟩
  have found : desk.module.type? desk.dispatcher.type = some type := typeDeclared
  simp [Store.hostTarget, Store.module, keeps.loaded, declared, Store.checkArguments, found,
    desk.tended.plain type found]
  rfl

/-- A host that calls a routine that invokes what is listed runs what is listed in turn. -/
theorem invoke_iff (keeps : desk.Keeps ledger store) (usable : limits.fault? = none)
    (occasion : Occasion) :
    ∃ opened, EndsAbove limits.callDepth hostThread 0 store [.access desk.dispatching] opened
        none ∧
      ∀ after trap?, (∃ steps result, store.invoke limits steps desk.handle
          (desk.dispatcher.invoker occasion) [] [] = some (after, result) ∧
            failure result = trap?) ↔
        InTurn limits.callDepth hostThread 1 opened (desk.listed store occasion) after trap? := by
  have enough : ¬limits.callDepth < 0 + 1 := by
    unfold Limits.fault? at usable
    split at usable
    · cases usable
    · omega
  rcases keeps.endsAbove_invoker occasion enough with ⟨opened, opens, ends⟩
  refine ⟨opened, opens, fun after trap? => ?_⟩
  rw [keeps.listed_eq occasion, ← ends after trap?]
  simp only [Store.invoke, keeps.hostTarget_eq occasion]
  rfl

/-- Calling what is listed extends what dispatchers list. -/
theorem invoked (keeps : desk.Keeps ledger store) {handle : ModuleHandle} {routine : RoutineId}
    {steps : Nat} {result : Except Trap (Option Value)}
    (invokes : store.invoke limits steps handle routine [] [] = some (after, result)) :
    ∃ entries, desk.Keeps (ledger ++ entries) after := by
  rcases allowed : store.hostTarget handle routine [] with trap | target
  · simp only [Store.invoke, allowed] at invokes
    cases invokes
    exact ⟨[], by rwa [List.append_nil]⟩
  · simp only [Store.invoke, allowed] at invokes
    have calls : desk.Calm (.call target []) := ⟨List.forall_mem_nil _, fun _ _ => .inl rfl⟩
    exact ⟨_, (State.calm keeps (List.forall_mem_singleton.mpr calls)).run_keeps invokes⟩

end Desk.Keeps

end Rekindle.Machine

namespace Rekindle.Reload

open Machine

/-- A sweep over modules: for each of them the targets that its dispatcher lists when its turn comes
are called one after the other, until one fails. What failed is named by its module. -/
inductive Sweeps (limits : Limits) (occasion : Occasion) :
    Store → List Placed → Store → Option (String × Trap) → Prop where
  | done {store : Store} : Sweeps limits occasion store [] store none
  | next {store opened middle after : Store} {placed : Placed} {others : List Placed}
      {fault? : Option (String × Trap)}
      (opens : EndsAbove limits.callDepth hostThread 0 store [.access placed.dispatching] opened
        none)
      (calls : InTurn limits.callDepth hostThread 1 opened (placed.listed store occasion) middle
        none)
      (rest : Sweeps limits occasion middle others after fault?) :
      Sweeps limits occasion store (placed :: others) after fault?
  | fails {store opened after : Store} {placed : Placed} {trap : Trap}
      (opens : EndsAbove limits.callDepth hostThread 0 store [.access placed.dispatching] opened
        none)
      (calls : InTurn limits.callDepth hostThread 1 opened (placed.listed store occasion) after
        (some trap)) (others : List Placed) :
      Sweeps limits occasion store (placed :: others) after (some (placed.module.name, trap))

/-- A cycle over modules: a sweep for what is to be called before a reload, a garbage pass, and a
sweep for what is to be called after it. A fault of a sweep ends the cycle. -/
inductive Cycles (limits : Limits) (store : Store) (known : List Placed) :
    Store → Except CycleFault CycleReport → Prop where
  | unloadFails {after : Store} {name : String} {trap : Trap}
      (unloads : Sweeps limits .unload store known after (some (name, trap))) :
      Cycles limits store known after (.error (.unload name trap))
  | loadFails {middle after : Store} {name : String} {trap : Trap}
      (unloads : Sweeps limits .unload store known middle none)
      (loads : Sweeps limits .load middle.collectGarbage known after (some (name, trap))) :
      Cycles limits store known after (.error (.load name trap))
  | completes {middle after : Store} (unloads : Sweeps limits .unload store known middle none)
      (loads : Sweeps limits .load middle.collectGarbage known after none) :
      Cycles limits store known after
        (.ok { modules := known.length, garbagePasses := after.garbagePasses })

/-- The number of garbage passes that a cycle asks for. -/
def passes : Except CycleFault CycleReport → Nat
  | .error (.unload _ _) => 0
  | .error (.load _ _) | .ok _ => 1

/-- What a reloader is told of a sweep. -/
def verdict (fault : String → Trap → CycleFault) : Option (String × Trap) → Except CycleFault Unit
  | none => .ok ()
  | some (name, trap) => .error (fault name trap)

variable {limits : Limits} {occasion : Occasion} {store after : Store} {known : List Placed}
  {fault? : Option (String × Trap)}

/-! ### Garbage passes -/

theorem Sweeps.garbagePasses_eq (sweeps : Sweeps limits occasion store known after fault?) :
    after.garbagePasses = store.garbagePasses := by
  induction sweeps with
  | done => rfl
  | next opens calls _ ih => rw [ih, calls.garbagePasses_eq, opens.garbagePasses_eq]
  | fails opens calls => rw [calls.garbagePasses_eq, opens.garbagePasses_eq]

theorem Cycles.garbagePasses_eq {result : Except CycleFault CycleReport}
    (cycles : Cycles limits store known after result) :
    after.garbagePasses = store.garbagePasses + passes result := by
  cases cycles with
  | unloadFails unloads => exact unloads.garbagePasses_eq
  | loadFails unloads loads | completes unloads loads =>
      rw [loads.garbagePasses_eq, Store.collectGarbage, unloads.garbagePasses_eq]
      rfl

/-! ### What a reloader does -/

/-- A store in which each of some dispatchers lists what a ledger does. -/
def AllKept (desks : List Desk) (store : Store) : Prop :=
  ∀ desk ∈ desks, ∃ ledger, desk.Keeps ledger store

theorem AllKept.invoked {desks : List Desk} (kept : AllKept desks store) {handle : ModuleHandle}
    {routine : RoutineId} {steps : Nat} {result : Except Trap (Option Value)}
    (invokes : store.invoke limits steps handle routine [] [] = some (after, result)) :
    AllKept desks after := by
  intro desk listed
  rcases kept desk listed with ⟨ledger, keeps⟩
  rcases keeps.invoked invokes with ⟨entries, keepsAfter⟩
  exact ⟨_, keepsAfter⟩

theorem AllKept.collectGarbage {desks : List Desk} (kept : AllKept desks store) :
    AllKept desks store.collectGarbage := by
  intro desk listed
  rcases kept desk listed with ⟨ledger, keeps⟩
  exact ⟨ledger, keeps.collectGarbage⟩

theorem invoke_mono {steps more : Nat} {handle : ModuleHandle} {routine : RoutineId}
    {answer : Store × Except Trap (Option Value)}
    (invokes : store.invoke limits steps handle routine [] [] = some answer)
    (le : steps ≤ more) : store.invoke limits more handle routine [] [] = some answer := by
  rcases allowed : store.hostTarget handle routine [] with trap | target
  · simp only [Store.invoke, allowed] at invokes ⊢
    exact invokes
  · simp only [Store.invoke, allowed] at invokes ⊢
    exact run_mono invokes le

section Calling

variable {routine : ReloadableModule → RoutineId} {fault : String → Trap → CycleFault}
  {all desks : List Desk} {result : Except CycleFault Unit} {steps : Nat}

theorem callEach_mono {more : Nat} {modules : List ReloadableModule}
    (runs : Reloader.callEach limits steps routine fault store modules = some (after, result))
    (le : steps ≤ more) :
    Reloader.callEach limits more routine fault store modules = some (after, result) := by
  induction modules generalizing store with
  | nil => exact runs
  | cons module others ih =>
      rw [Reloader.callEach] at runs ⊢
      rcases invokes : store.invoke limits steps module.handle (routine module) [] [] with
        _ | ⟨middle, trap | value⟩
      · simp only [invokes] at runs
        cases runs
      · simp only [invokes, invoke_mono invokes le] at runs ⊢
        exact runs
      · simp only [invokes, invoke_mono invokes le] at runs ⊢
        exact ih runs

variable (usable : limits.fault? = none) (kept : AllKept all store)
  (among : ∀ desk ∈ desks, desk ∈ all)
  (calls : ∀ placed : Placed, routine placed.reloadable = placed.dispatcher.invoker occasion)
include usable kept among calls

/-- A reloader that calls a routine of every module makes a sweep. -/
theorem callEach_sweeps
    (runs : Reloader.callEach limits steps routine fault store (desks.map (·.reloadable)) =
      some (after, result)) :
    AllKept all after ∧ ∃ fault?, result = verdict fault fault? ∧
      Sweeps limits occasion store (desks.map (·.toPlaced)) after fault? := by
  induction desks generalizing store with
  | nil =>
      cases runs
      exact ⟨kept, none, rfl, .done⟩
  | cons desk others ih =>
      rcases List.forall_mem_cons.mp among with ⟨first, rest⟩
      rcases kept desk first with ⟨ledger, keeps⟩
      rcases keeps.invoke_iff usable occasion with ⟨opened, opens, comes⟩
      rw [List.map_cons, Reloader.callEach, calls desk.toPlaced] at runs
      rcases invokes : store.invoke limits steps desk.handle (desk.dispatcher.invoker occasion)
        [] [] with _ | ⟨middle, trap | value⟩
      · simp only [Placed.reloadable, invokes] at runs
        cases runs
      · simp only [Placed.reloadable, invokes] at runs
        cases runs
        exact ⟨kept.invoked invokes, some (desk.module.name, trap), rfl,
          .fails opens ((comes _ _).mp ⟨steps, _, invokes, rfl⟩) _⟩
      · simp only [Placed.reloadable, invokes] at runs
        rcases ih (kept.invoked invokes) rest runs with ⟨keptAfter, fault?, same, sweeps⟩
        exact ⟨keptAfter, fault?, same,
          .next opens ((comes _ _).mp ⟨steps, _, invokes, rfl⟩) sweeps⟩

/-- A sweep is what a reloader does that calls a routine of every module. -/
theorem Sweeps.callEach (fault : String → Trap → CycleFault)
    (sweeps : Sweeps limits occasion store (desks.map (·.toPlaced)) after fault?) :
    ∃ steps, Reloader.callEach limits steps routine fault store (desks.map (·.reloadable)) =
      some (after, verdict fault fault?) := by
  induction desks generalizing store with
  | nil =>
      cases sweeps
      exact ⟨0, rfl⟩
  | cons desk others ih =>
      rcases List.forall_mem_cons.mp among with ⟨first, rest⟩
      rcases kept desk first with ⟨ledger, keeps⟩
      rcases keeps.invoke_iff usable occasion with ⟨opened, opens, comes⟩
      rw [List.map_cons] at sweeps
      cases sweeps with
      | next opensToo turn sweepsOthers =>
          rcases opensToo.unique opens with ⟨rfl, _⟩
          rcases (comes _ _).mpr turn with ⟨steps, trap | value, invokes, ends⟩
          · cases ends
          · rcases ih (kept.invoked invokes) rest sweepsOthers with ⟨more, runs⟩
            refine ⟨max steps more, ?_⟩
            have invokesMore := invoke_mono invokes (Nat.le_max_left steps more)
            rw [List.map_cons, Reloader.callEach, calls desk.toPlaced]
            simp only [Placed.reloadable, invokesMore]
            exact callEach_mono runs (Nat.le_max_right steps more)
      | fails opensToo turn =>
          rcases opensToo.unique opens with ⟨rfl, _⟩
          rcases (comes _ _).mpr turn with ⟨steps, trap | value, invokes, ends⟩
          · cases ends
            refine ⟨steps, ?_⟩
            rw [List.map_cons, Reloader.callEach, calls desk.toPlaced]
            simp only [Placed.reloadable, invokes]
            rfl
          · cases ends

end Calling

/-- What a reloader does in the end is a cycle. -/
theorem cycle_iff (usable : limits.fault? = none) {desks : List Desk} (kept : AllKept desks store)
    {result : Except CycleFault CycleReport} :
    (∃ steps, Reloader.cycle limits steps store (desks.map (·.reloadable)) =
        some (after, result)) ↔ Cycles limits store (desks.map (·.toPlaced)) after result := by
  have among : ∀ desk ∈ desks, desk ∈ desks := fun _ listed => listed
  have unloads (placed : Placed) : placed.reloadable.unload = placed.dispatcher.invoker .unload :=
    rfl
  have loads (placed : Placed) : placed.reloadable.load = placed.dispatcher.invoker .load := rfl
  constructor
  · rintro ⟨steps, runs⟩
    unfold Reloader.cycle at runs
    split at runs
    · cases runs
    · rename_i first
      cases runs
      rcases callEach_sweeps usable kept among unloads first with ⟨_, _ | ⟨name, trap⟩, same, sweeps⟩
      · cases same
      · cases same
        exact .unloadFails sweeps
    · rename_i middle first
      rcases callEach_sweeps usable kept among unloads first with ⟨keptMiddle, _ | _, same, sweeps⟩
      · split at runs
        · cases runs
        · rename_i second
          cases runs
          rcases callEach_sweeps usable keptMiddle.collectGarbage among loads second with
            ⟨_, _ | ⟨name, trap⟩, same, sweepsToo⟩
          · cases same
          · cases same
            exact .loadFails sweeps sweepsToo
        · rename_i second
          cases runs
          rcases callEach_sweeps usable keptMiddle.collectGarbage among loads second with
            ⟨_, _ | ⟨name, trap⟩, same, sweepsToo⟩
          · rw [List.length_map, ← List.length_map (·.toPlaced)]
            exact .completes sweeps sweepsToo
          · cases same
      · cases same
  · -- The two sweeps take as many steps as the one that takes more of them.
    have both {middle : Store} {fault? : Option (String × Trap)}
        (sweeps : Sweeps limits .unload store (desks.map (·.toPlaced)) middle none)
        (sweepsToo : Sweeps limits .load middle.collectGarbage (desks.map (·.toPlaced)) after
          fault?) : ∃ steps,
        Reloader.callEach limits steps (·.unload) .unload store (desks.map (·.reloadable)) =
          some (middle, .ok ()) ∧
        Reloader.callEach limits steps (·.load) .load middle.collectGarbage
          (desks.map (·.reloadable)) = some (after, verdict .load fault?) := by
      rcases sweeps.callEach usable kept among unloads .unload with ⟨steps, first⟩
      have keptMiddle := (callEach_sweeps usable kept among unloads first).1
      rcases sweepsToo.callEach usable keptMiddle.collectGarbage among loads .load with
        ⟨more, second⟩
      exact ⟨max steps more, callEach_mono first (Nat.le_max_left _ _),
        callEach_mono second (Nat.le_max_right _ _)⟩
    intro cycles
    cases cycles with
    | unloadFails sweeps =>
        rcases sweeps.callEach usable kept among unloads .unload with ⟨steps, first⟩
        exact ⟨steps, by simp only [Reloader.cycle, first, verdict]⟩
    | loadFails sweeps sweepsToo =>
        rcases both sweeps sweepsToo with ⟨steps, first, second⟩
        exact ⟨steps, by simp only [Reloader.cycle, first, second, verdict]⟩
    | completes sweeps sweepsToo =>
        rcases both sweeps sweepsToo with ⟨steps, first, second⟩
        exact ⟨steps, by simp only [Reloader.cycle, first, second, verdict, List.length_map]⟩

end Rekindle.Reload
