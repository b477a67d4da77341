import Mathlib.Data.List.Permutation
import Rekindle.Proofs.Loading.Load
import Rekindle.Proofs.Machine.InTurn

/-!
# Unloads

The routine that runs before a reload calls the teardown routines of its type, under the arguments
it is bound to, one after the other until one fails. They are those of the type's routines that
qualify, ascending by their keys, and by their declaration where keys are equal.
-/

namespace Rekindle.Reload

open Fallible

variable {markers : Markers} {module : Module}

/-! ### The order of teardown routines -/

/-- The key by which a routine is run before its type is reset, if the routine is to be run then. A
marker without a key asks for zero. -/
def teardownKey? (markers : Markers) (module : Module) (id : RoutineId) : Option Int32 := do
  let routine ← module.routine? id
  let marker ← Attribute.find? routine.attributes markers.runBeforeReload
  guard (Survey.isTeardown routine)
  match marker.property? markers.orderProperty with
  | none => some 0
  | some value => value.int32?

/-- The routines of a type that are to be run before it is reset, ascending by their keys. Those
with equal keys are in the order in which the type lists them. -/
structure TeardownOrder (markers : Markers) (module : Module) (type : TypeDecl)
    (order : List RoutineId) : Prop where
  complete : order.Perm (type.routines.filter fun id => (teardownKey? markers module id).isSome)
  ascending : order.Pairwise fun first second => ∀ key other,
    teardownKey? markers module first = some key →
      teardownKey? markers module second = some other → key ≤ other
  stable : ∀ key : Int32,
    (order.filter fun id => teardownKey? markers module id = some key) =
      type.routines.filter fun id => teardownKey? markers module id = some key

/-- A stable sort by keys leaves the items of each key as they were. -/
theorem filter_mergeSort {Item Key : Type} [LE Key] [DecidableLE Key] [DecidableEq Key]
    (keyOf : Item → Key) (trans : ∀ first second third : Key, first ≤ second → second ≤ third →
      first ≤ third) (total : ∀ first second : Key, first ≤ second ∨ second ≤ first)
    (items : List Item) (key : Key) :
    ((items.mergeSort fun left right => keyOf left ≤ keyOf right).filter fun item =>
        keyOf item = key) = items.filter fun item => keyOf item = key := by
  have refl (key : Key) : key ≤ key := (total key key).elim id id
  have alike : (items.filter fun item => keyOf item = key).Pairwise fun left right =>
      decide (keyOf left ≤ keyOf right) = true := by
    refine List.pairwise_of_forall_mem_list fun left isLeft right isRight => ?_
    simp only [List.mem_filter, decide_eq_true_eq] at isLeft isRight ⊢
    rw [isLeft.2, isRight.2]
    exact refl key
  have kept : (items.filter fun item => keyOf item = key).Sublist
      (items.mergeSort fun left right => keyOf left ≤ keyOf right) := by
    refine List.sublist_mergeSort ?_ ?_ alike List.filter_sublist
    · simpa using fun first second third => trans (keyOf first) (keyOf second) (keyOf third)
    · simpa using fun first second => total (keyOf first) (keyOf second)
  have keptAlike := kept.filter fun item => decide (keyOf item = key)
  rw [List.filter_filter] at keptAlike
  simp only [Bool.and_self] at keptAlike
  refine (keptAlike.eq_of_length ?_).symm
  exact ((List.mergeSort_perm items _).filter _).length_eq.symm

namespace Survey

theorem teardown_key {id : RoutineId} {verdict : Option Teardown}
    (inspected : teardown markers module id = .ok verdict) :
    teardownKey? markers module id = verdict.map (·.order) ∧
      ∀ found, verdict = some found → found.routine = id := by
  unfold teardown at inspected
  unfold teardownKey?
  rcases declared : module.routine? id with _ | routine
  · simp [declared] at inspected
  · rcases marked : Attribute.find? routine.attributes markers.runBeforeReload with _ | marker
    · simp only [declared, marked, Except.ok.injEq] at inspected
      subst inspected
      exact ⟨by simp [marked], nofun⟩
    · by_cases fit : isTeardown routine = true
      · simp only [declared, marked, fit, if_true, bind_eq_ok_iff, pure_eq_ok,
          Except.ok.injEq] at inspected
        rcases inspected with ⟨order, ordered, rfl⟩
        refine ⟨?_, by rintro found ⟨⟩; rfl⟩
        unfold orderOf at ordered
        simp only [Option.bind_eq_bind, Option.bind_some, marked, guard, fit, if_true,
          Option.pure_def, Option.map_some]
        rcases keyed : marker.property? markers.orderProperty with _ | value
        · simpa [keyed] using ordered
        · rw [keyed] at ordered
          rcases number : value.int32? with _ | key
          · simp [number] at ordered
          · simpa [number] using ordered
      · simp only [declared, marked, if_neg fit, Except.ok.injEq] at inspected
        subst inspected
        exact ⟨by simp [marked, guard, fit], nofun⟩

/-- What is found by looking at routines one by one are those that have a key. -/
theorem teardowns_found {ids : List RoutineId} {verdicts : List (Option Teardown)}
    (inspected : ids.mapM (teardown markers module) = .ok verdicts) :
    (∀ found ∈ verdicts.filterMap fun verdict => verdict,
        teardownKey? markers module found.routine = some found.order) ∧
      (verdicts.filterMap fun verdict => verdict).map (·.routine) =
        ids.filter fun id => (teardownKey? markers module id).isSome := by
  have pairs := mapM_eq_ok_iff.mp inspected
  clear inspected
  induction pairs with
  | nil => exact ⟨by simp, rfl⟩
  | cons first others ih =>
      rename_i id verdict ids verdicts
      rcases teardown_key first with ⟨keyed, same⟩
      rcases verdict with _ | found
      · refine ⟨by simpa using ih.1, ?_⟩
        rw [List.filterMap_cons, List.filter_cons, keyed]
        exact ih.2
      · have isRoutine := same found rfl
        refine ⟨?_, ?_⟩
        · rw [List.filterMap_cons]
          refine List.forall_mem_cons.mpr ⟨?_, ih.1⟩
          rw [isRoutine, keyed]
          rfl
        · rw [List.filterMap_cons, List.filter_cons, keyed]
          simp only [Option.map_some, Option.isSome_some, if_true, List.map_cons, isRoutine, ih.2]

/-- The teardown routines of a candidate are in their order. -/
theorem inspectType_order {id : TypeId} {candidate : Candidate} {type : TypeDecl}
    (inspected : inspectType markers module id = .ok (some candidate))
    (declared : module.type? id = some type) :
    TeardownOrder markers module type (candidate.teardowns.map (·.routine)) := by
  unfold inspectType at inspected
  by_cases marked : Attribute.has type.attributes markers.reloadOnEnter = true
  · simp only [declared, marked, if_true, bind_eq_ok_iff, pure_eq_ok, Except.ok.injEq] at inspected
    rcases inspected with ⟨fields, _, teardowns, teardowns_eq, verdict⟩
    split at verdict
    · cases verdict
    · cases verdict
      rcases teardowns_found teardowns_eq with ⟨keyed, listed⟩
      generalize (teardowns.filterMap fun verdict => verdict) = found at keyed listed
      have sorted := List.mergeSort_perm found fun left right => left.order ≤ right.order
      have keyedSorted : ∀ item ∈ found.mergeSort fun left right => left.order ≤ right.order,
          teardownKey? markers module item.routine = some item.order :=
        fun item mem => keyed item (sorted.mem_iff.mp mem)
      refine ⟨?_, ?_, fun key => ?_⟩
      · rw [← listed]
        exact sorted.map _
      · refine List.pairwise_map.mpr ?_
        have ascending : (found.mergeSort fun left right => left.order ≤ right.order).Pairwise
            fun left right => decide (left.order ≤ right.order) = true := by
          refine List.pairwise_mergeSort ?_ ?_ found
          · simpa using fun _ _ _ => Int32.le_trans
          · simpa using fun left right : Teardown => Int32.le_total left.order right.order
        refine ascending.imp_of_mem fun isFirst isSecond le key other firstKey secondKey => ?_
        rw [keyedSorted _ isFirst] at firstKey
        rw [keyedSorted _ isSecond] at secondKey
        cases firstKey
        cases secondKey
        exact of_decide_eq_true le
      · have byKey {items : List Teardown}
            (keyed : ∀ item ∈ items, teardownKey? markers module item.routine = some item.order) :
            ((items.map (·.routine)).filter fun id => teardownKey? markers module id = some key) =
              (items.filter fun item => item.order = key).map (·.routine) := by
          rw [List.filter_map]
          refine congrArg _ (List.filter_congr fun item mem => ?_)
          simp [keyed item mem]
        rw [byKey keyedSorted, filter_mergeSort Teardown.order (fun _ _ _ => Int32.le_trans)
          Int32.le_total found key, ← byKey keyed, listed, List.filter_filter]
        refine List.filter_congr fun id _ => ?_
        rcases teardownKey? markers module id with _ | other <;> simp
  · simp [declared, marked] at inspected

end Survey

end Rekindle.Reload

/-! ### Calls of routines of the same type -/

namespace Rekindle.Machine

open Fallible Reload

variable {limit level : Nat} {thread : ThreadId} {store middle after : Store}
  {handle : ModuleHandle} {frame : Frame} {module : Module} {trap? : Option Trap}

/-- A thread that waits for nothing enters a routine of an initialized instantiation. -/
theorem attempt_of_initialized {target : BoundRoutine} {routine : RoutineDecl}
    (initialized : store.isInitialized ⟨target.module, routine.owner, target.arguments⟩ = true)
    (awake : store.waits.next? thread = none) (loaded : store.module target.module = .ok module)
    (found : module.routine? target.routine = some routine) (limit : Nat)
    (parameters : List Value) (below : List Activation) :
    attempt limit thread store (.call target parameters :: below) =
      entering limit store target parameters below := by
  unfold Store.isInitialized at initialized
  split at initialized
  · next storage present =>
      have done := of_decide_eq_true initialized
      have serves : store.Serves thread ⟨target.module, routine.owner, target.arguments⟩
          storage.slots.size := ⟨awake, storage, present, rfl, by rw [done]; rfl⟩
      simp only [attempt, call_eq (ownerOf_found loaded found), acquire, serves.ask]
  · cases initialized

/-- The instructions that call routines of the same type. -/
def ownCalls (arity : Nat) (callees : List RoutineId) : List Instruction :=
  callees.map fun callee => .call (ownRoutine arity callee)

/-- Routines of a module under arguments. -/
def boundTo (handle : ModuleHandle) (arguments : List ValueType) (routines : List RoutineId) :
    List BoundRoutine :=
  routines.map fun routine => { module := handle, routine, arguments }

/-- Routines that take nothing and return nothing. -/
def AllQuiet (module : Module) (routines : List RoutineId) : Prop :=
  ∀ id ∈ routines, ∃ routine, Callable module id routine 0

section OwnCall

variable {arity : Nat} {callee : RoutineId} {rest : List Instruction} {routine : RoutineDecl}
  {count : Nat}

theorem Frame.Ahead.resume
    (ahead : frame.Ahead handle (.call (ownRoutine arity callee) :: rest))
    (loaded : store.modules[handle.position]? = some module)
    (callable : Callable module callee routine count) (result : Option Value) :
    frame.resume store result = .ok frame.advance := by
  have current : frame.instruction? = some (.call (ownRoutine arity callee)) := ahead.instruction?
  have quiet : frame.calleeReturns store (ownRoutine arity callee) = false := by
    simp only [Frame.calleeReturns, ahead.module_eq, loaded, ownRoutine, callable.declared,
      callable.silent]
  simp [Frame.resume, current, quiet]

theorem Frame.Ahead.passes {code : List Instruction} (ahead : frame.Ahead handle code)
    (trap : Trap) : frame.receive trap = .error trap :=
  receive_of_unguarded ahead.handlers_eq trap

theorem Frame.Ahead.ret (ahead : frame.Ahead handle [.ret]) (limit : Nat) (thread : ThreadId)
    (store : Store) (below : List Activation) :
    attempt limit thread store (.body frame :: below) = complete store none below := by
  have current : frame.instruction? = some .ret := ahead.instruction?
  simp [attempt, current, stepBody, resultOf, ahead.silent]

end OwnCall

/-- A body that calls routines of its own type and then returns comes to what its calls come to in
turn, one body deeper. -/
theorem endsAbove_ownCalls {arity : Nat} {callees : List RoutineId}
    (ahead : frame.Ahead handle (ownCalls arity callees ++ [.ret]))
    (loaded : store.modules[handle.position]? = some module)
    (arity_eq : arity = frame.arguments.length) (small : arity ≤ 65535)
    (quiet : AllQuiet module callees) :
    EndsAbove limit thread level store [.body frame] after trap? ↔
      InTurn limit thread (level + 1) store (boundTo handle frame.arguments callees) after
        trap? := by
  induction callees generalizing store frame with
  | nil =>
      have returned := ahead.ret limit thread store (resting level)
      have stepped : step limit thread store (.body frame :: resting level) =
          (complete store none (resting level)).settle := by
        rw [step, returned]
      rw [EndsAbove, List.singleton_append, Progress.ends_running_iff, stepped]
      exact (complete_resting store none level).trans inTurn_nil_iff.symm
  | cons callee others ih =>
      rcases List.forall_mem_cons.mp quiet with ⟨⟨routine, callable⟩, quietOthers⟩
      have moduleFound : store.module handle = .ok module := by
        simp only [Store.module, loaded]
      have called : frame.Ahead handle
          (.call (ownRoutine arity callee) :: (ownCalls arity others ++ [.ret])) := ahead
      have calls := attempt_ownCall called moduleFound arity_eq small callable.declared
        (List.length_eq_zero_iff.mp callable.arguments_eq) limit thread (resting level)
      have resumed (other : Store) (same : other.modules = store.modules) (result : Option Value) :
          complete other result ([.body frame] ++ resting level) =
            .running other ([.body frame.advance] ++ resting level) := by
        have loadedThere : other.modules[handle.position]? = some module := by
          rw [same, loaded]
        simp [complete, called.resume loadedThere callable result]
      have heedless : Heedless store.modules ([.body frame] ++ resting level) :=
        fun other result same => (resumed other same result).trans (resumed other same none).symm
      have start : EndsAbove limit thread level store [.body frame] after trap? ↔
          EndsAbove limit thread level store
            ([.call ⟨handle, callee, frame.arguments⟩ []] ++ [.body frame]) after trap? :=
        Progress.ends_of_settle calls
      rw [start, endsAbove_append (whole_call _ _) heedless]
      refine Iff.trans ?_ inTurn_cons_iff.symm
      refine exists_congr fun middle => exists_congr fun passed? => and_congr_right fun ends => ?_
      have kept := ends.modules_eq
      cases passed? with
      | none =>
          have goesOn : resumption middle ([.body frame] ++ resting level) none =
              .running middle ([.body frame.advance] ++ resting level) := by
            rw [resumption, resumed middle kept none]
            rfl
          rw [goesOn]
          exact ih called.advance (by rw [kept, loaded]) arity_eq quietOthers
      | some trap =>
          have unwinds : resumption middle ([.body frame] ++ resting level) (some trap) =
              .finished middle (.error trap) := by
            simp only [resumption, List.singleton_append, unwind, ahead.passes, unwind_resting]
          rw [unwinds]
          exact Progress.ends_finished_iff

/-- When some calls have returned, the body makes the next one. -/
theorem ownCalls_lead {arity : Nat} {earlier later : List RoutineId} {target : RoutineId}
    {below : List Activation}
    (ahead : frame.Ahead handle (ownCalls arity (earlier ++ target :: later) ++ [.ret]))
    (loaded : store.modules[handle.position]? = some module)
    (arity_eq : arity = frame.arguments.length) (small : arity ≤ 65535)
    (quiet : AllQuiet module (earlier ++ target :: later))
    (turn : InTurn limit thread (depth below + 1) store (boundTo handle frame.arguments earlier)
      middle none) :
    ∃ caller, Leads limit thread store (.body frame :: below) middle
      (.call ⟨handle, target, frame.arguments⟩ [] :: .body caller :: below) := by
  induction earlier generalizing store frame with
  | nil =>
      have moduleFound : store.module handle = .ok module := by
        simp only [Store.module, loaded]
      rcases quiet target (List.mem_append_right _ List.mem_cons_self) with ⟨routine, callable⟩
      have called : frame.Ahead handle
          (.call (ownRoutine arity target) :: (ownCalls arity later ++ [.ret])) := ahead
      rcases inTurn_nil_iff.mp turn with ⟨rfl, -⟩
      exact ⟨frame, .of_running (attempt_ownCall called moduleFound arity_eq small
        callable.declared (List.length_eq_zero_iff.mp callable.arguments_eq) limit thread below)⟩
  | cons callee others ih =>
      have moduleFound : store.module handle = .ok module := by
        simp only [Store.module, loaded]
      rcases List.forall_mem_cons.mp quiet with ⟨⟨routine, callable⟩, quietOthers⟩
      have called : frame.Ahead handle (.call (ownRoutine arity callee) ::
          (ownCalls arity (others ++ target :: later) ++ [.ret])) := ahead
      have calls := attempt_ownCall called moduleFound arity_eq small callable.declared
        (List.length_eq_zero_iff.mp callable.arguments_eq) limit thread below
      rcases inTurn_cons_iff.mp turn with ⟨next, passed?, ends, rest⟩
      cases passed? with
      | some trap => cases rest.2
      | none =>
          have kept := ends.modules_eq
          have loadedThere : next.modules[handle.position]? = some module := by
            rw [kept, loaded]
          rcases (endsAbove_iff_settles (whole_call _ _)).mp ends with ⟨result, settles, returned⟩
          rcases result with trap | value
          · cases returned
          · have resumes : (Progress.finished next (.ok value)).over (.body frame :: below) =
                .running next (.body frame.advance :: below) := by
              simp only [Progress.over, complete, called.resume loadedThere callable value,
                Attempt.settle]
            rw [← depth_body frame below] at settles
            have returns : Leads limit thread store
                (.call ⟨handle, callee, frame.arguments⟩ [] :: .body frame :: below) next
                (.body frame.advance :: below) := settles.leads resumes
            rcases ih called.advance loadedThere arity_eq quietOthers rest with ⟨caller, leads⟩
            exact ⟨caller, .trans (.of_running calls) (returns.trans leads)⟩

end Rekindle.Machine

/-! ### Unload routines -/

namespace Rekindle.Reload

open Fallible Machine Validity Rekindle.Module

variable {markers : Markers} {module woven : Module} {candidate : Candidate} {type : TypeDecl}
  {dispatcher : Dispatcher} {hook : Hook} {unload : RoutineId}

theorem Installed.unload_declared
    (installed : Installed markers dispatcher module candidate type woven hook)
    (unloads : hook.unload = some unload) :
    ∃ routine, woven.routine? unload = some routine ∧ routine.owner = candidate.type ∧
      routine.parameters = [] ∧ routine.returns = false ∧
      routine.body = some (Hook.straightLine
        (ownCalls type.arity (candidate.teardowns.map (·.routine)))) := by
  have stands := installed.unload
  rw [unloads] at stands
  rcases stands.some_iff with ⟨routine, made, found⟩
  unfold unloadDecl? at made
  split at made
  · cases made
  · cases made
    refine ⟨_, found, rfl, rfl, rfl, ?_⟩
    rw [ownCalls, List.map_map]
    rfl

theorem Candidate.Sound.quiet (sound : candidate.Sound module) (grows : Grows module woven) :
    AllQuiet woven (candidate.teardowns.map (·.routine)) := by
  intro id listed
  rcases List.mem_map.mp listed with ⟨teardown, isTeardown, rfl⟩
  rcases sound.callable isTeardown with ⟨routine, callable, _⟩
  rcases callable.grow grows with ⟨grown, callableThere, _⟩
  exact ⟨grown, callableThere⟩

theorem inspected_of_listed {symbols : Option Symbols} {survey : Survey}
    (surveyed : Survey.ofModule markers module symbols = .ok survey)
    (listed : candidate ∈ survey.candidates) :
    Survey.inspectType markers module candidate.type = .ok (some candidate) := by
  rcases Survey.ofModule_ok surveyed with ⟨verdicts, inspected, candidates_eq⟩
  rw [candidates_eq] at listed
  rcases Survey.exists_item_of_mem inspected listed with ⟨id, _, holds⟩
  rwa [← (Survey.inspectType_ok holds).1] at holds

/-- The routine that runs before a reload calls the teardown routines of its type that qualify, all
of them and no others, ascending by their keys and then by their declaration, each under the
arguments it is bound to itself. It calls one when those before it have returned, and comes to what
the calls come to in turn: the first one that fails ends it with its trap, and none is called
after that. -/
theorem unload_runs_teardowns {settings : Settings} {symbols : Option Symbols} {survey : Survey}
    {instrumented : Instrumented}
    (makes : instrument settings module symbols = .ok (some instrumented))
    (surveyed : Survey.ofModule settings.markers module symbols = .ok survey)
    (room : Room module 1 2 (4 + 4 * survey.candidates.length))
    (hooked : hook ∈ instrumented.hooks) (unloads : hook.unload = some unload)
    (declared : module.type? hook.type = some type) (small : type.arity ≤ 65535)
    {store : Store} {thread : ThreadId} {handle : ModuleHandle} {arguments : List ValueType}
    (placed : arguments.length = type.arity)
    (loaded : store.modules[handle.position]? = some instrumented.module)
    (initialized : store.isInitialized ⟨handle, hook.type, arguments⟩ = true)
    (awake : store.waits.next? thread = none) :
    ∃ order, TeardownOrder settings.markers module type order ∧
      (∀ limit level after trap?,
        EndsAbove limit thread level store [.call ⟨handle, unload, arguments⟩ []] after trap? ↔
          if limit < level + 1 then after = store ∧ trap? = some (.callDepthExceeded limit)
          else InTurn limit thread (level + 1) store (boundTo handle arguments order) after trap?) ∧
      ∀ limit below earlier target later middle, order = earlier ++ target :: later →
        ¬limit < depth below + 1 →
        InTurn limit thread (depth below + 1) store (boundTo handle arguments earlier) middle none →
          ∃ caller, Leads limit thread store (.call ⟨handle, unload, arguments⟩ [] :: below) middle
            (.call ⟨handle, target, arguments⟩ [] :: .body caller :: below) := by
  have made := instrument_made makes surveyed room
  rcases made.installed.of_hook hooked with ⟨candidate, listed, other, otherDeclared, installed⟩
  rw [installed.type_eq] at declared initialized
  rw [declared] at otherDeclared
  cases otherDeclared
  rcases installed.unload_declared unloads with ⟨routine, found, owns, takesNone, silent, hasBody⟩
  have moduleFound : store.module handle = .ok instrumented.module := by
    simp only [Store.module, loaded]
  let order := candidate.teardowns.map (·.routine)
  let target : BoundRoutine := ⟨handle, unload, arguments⟩
  let frame : Frame := .start instrumented.module target routine
    (Hook.straightLine (ownCalls type.arity order)) []
  have target_eq : target.module = handle := rfl
  have ahead : frame.Ahead handle (ownCalls type.arity order ++ [.ret]) :=
    start_ahead target_eq silent instrumented.module _
  have quiet : AllQuiet instrumented.module order :=
    (made.sound candidate listed).quiet made.grows
  rw [← owns] at initialized
  have enters (limit : Nat) (below : List Activation) :
      attempt limit thread store (.call target [] :: below) = entering limit store target [] below :=
    attempt_of_initialized initialized awake moduleFound found limit [] below
  have toBody (limit : Nat) (below : List Activation) (enough : ¬limit < depth below + 1) :
      attempt limit thread store (.call target [] :: below) =
        .running store (.body frame :: below) := by
    have counted : ([] : List Value).length = routine.parameters.length := by
      rw [takesNone]
      rfl
    rw [enters, entering, enter_of_body enough moduleFound found hasBody counted]
  refine ⟨order, Survey.inspectType_order (inspected_of_listed surveyed listed) declared, ?_, ?_⟩
  · intro limit level after trap?
    split
    · next tooDeep =>
        have raises : attempt limit thread store (.call target [] :: resting level) =
            .raised store (.callDepthExceeded limit) (resting level) := by
          rw [enters, entering, Frame.enter, depth_resting, if_pos tooDeep]
        rw [EndsAbove, List.singleton_append, Progress.ends_running_iff, step, raises,
          Attempt.settle, unwind_resting]
        exact Progress.ends_finished_iff
    · next enough =>
        rw [← depth_resting level] at enough
        have start : EndsAbove limit thread level store [.call target []] after trap? ↔
            EndsAbove limit thread level store [.body frame] after trap? :=
          Progress.ends_of_settle (toBody limit (resting level) enough)
        exact start.trans (endsAbove_ownCalls ahead loaded placed.symm small quiet)
  · intro limit below earlier next later middle split enough turn
    rw [split] at ahead quiet
    rcases ownCalls_lead ahead loaded placed.symm small quiet turn with ⟨caller, leads⟩
    exact ⟨caller, .trans (.of_running (toBody limit below enough)) leads⟩

end Rekindle.Reload

/-! ### A journal that cannot be closed -/

namespace Rekindle.Reload.Journal

open Machine Validity

/-- A routine to be run before a reload, with a key if the marker has one. -/
def teardown (name : String) (properties : List Property) (instructions : Array Instruction) :
    RoutineDecl :=
  { RoutineDecl.static name .void { Body.returning with instructions } with
    attributes := [{ typeName := Settings.standard.markers.runBeforeReload, properties }] }

def key (value : Int32) : Property where
  name := Settings.standard.markers.orderProperty
  value := .int32 value

def type : TypeDecl :=
  { TypeDecl.named "Journal" with
    attributes := [.bare Settings.standard.markers.reloadOnEnter]
    routines := [⟨0⟩, ⟨1⟩, ⟨2⟩] }

/-- A module with a type that is closed by a routine that throws, after it is flushed and before it
is dropped. -/
def module : Module where
  name := "app"
  identity := Vector.replicate 16 0
  references := []
  types := #[type]
  fields := #[]
  routines := #[
    teardown "close" [] #[.loadInt32 7, .throw],
    teardown "drop" [key 1] #[.ret],
    teardown "flush" [key (-1)] #[.ret]]
  topLevel := [⟨0⟩]

def candidate : Candidate where
  type := ⟨0⟩
  fullName := "Journal"
  fields := []
  teardowns := [
    { routine := ⟨2⟩, name := "flush", order := -1 },
    { routine := ⟨0⟩, name := "close", order := 0 },
    { routine := ⟨1⟩, name := "drop", order := 1 }]

def instrumented : Instrumented := .ofCandidates module none [candidate]

theorem nested : checkNesting module = .ok () := by cbv

theorem accepted : checkModule module = .ok () := checkModule_ok nested rfl rfl (by cbv)

theorem surveyed : Survey.ofModule Settings.unchecked.markers module none =
    .ok { candidates := [candidate], diagnostics := [], visited := 1 } := by cbv

theorem makes : instrument Settings.unchecked module none = .ok (some instrumented) :=
  instrument_ofCandidates nested accepted surveyed (by simp) rfl

/-- The store after the journal was first used. -/
def used : Store :=
  ((run 256 hostThread 60 (Weave.loadedWith instrumented.module)
    [.access ⟨firstModule, ⟨0⟩, []⟩]).map (·.1)).getD .empty

def hook : Hook where
  type := ⟨0⟩
  fullName := "Journal"
  initializer := ⟨8⟩
  initializerCopy := none
  load := none
  unload := some ⟨7⟩

/-- Before a reload the journal is flushed, and closing it fails, so that it is not dropped. -/
theorem unload_runs_teardowns_journal :
    ∃ order after, TeardownOrder Settings.unchecked.markers module type order ∧
      run 256 hostThread 60 used [.call ⟨firstModule, ⟨7⟩, []⟩ []] =
        some (after, .error (.thrown (.int32 7))) ∧
      InTurn 256 hostThread 1 used (boundTo firstModule [] order) after
        (some (.thrown (.int32 7))) := by
  have ended : ∃ after, run 256 hostThread 60 used [.call ⟨firstModule, ⟨7⟩, []⟩ []] =
      some (after, .error (.thrown (.int32 7))) := ⟨_, rfl⟩
  rcases ended with ⟨after, runs⟩
  have hooked : hook ∈ instrumented.hooks := List.mem_singleton.mpr rfl
  have placed : ([] : List ValueType).length = type.arity := rfl
  have loaded : used.modules[firstModule.position]? = some instrumented.module := rfl
  have initialized : used.isInitialized ⟨firstModule, hook.type, []⟩ = true := rfl
  have awake : used.waits.next? hostThread = none := rfl
  rcases unload_runs_teardowns makes surveyed (by constructor <;> decide) hooked rfl rfl
    (by decide) placed loaded initialized awake with ⟨order, ordered, comes, _⟩
  refine ⟨order, after, ordered, runs, ?_⟩
  exact (comes 256 0 after _).mp ⟨60, _, runs, rfl⟩

end Rekindle.Reload.Journal
