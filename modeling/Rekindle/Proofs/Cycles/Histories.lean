import Mathlib.Data.List.Induction
import Rekindle.Proofs.Cycles.Following
import Rekindle.Proofs.Hosting.Fitting

/-!
# Histories of a reloader

A host asks things of a machine, and of a reloader that drives its cycles. A history tells what was
done, one turn after the other; the calls that a cycle makes are told after it, like those of the
host. What a reloader knows it found when it was last told to look for modules, or, if it never was,
when it was first used.
-/

namespace Rekindle.Reload

open Machine

/-- What a host does with a machine and a reloader. -/
inductive Deed where
  /-- Asks something of the machine. -/
  | ask (request : Request)
  /-- Has the machine make a callback. -/
  | makeCallback (targets : List BoundRoutine)
  /-- Asks the reloader for the modules it knows. -/
  | list
  /-- Has the reloader look for modules. -/
  | refresh
  /-- Has the reloader drive a cycle. -/
  | reload

/-- A machine and a reloader that drives its cycles. -/
structure Rig where
  store : Store
  reloader : Reloader

def Rig.new : Rig := ⟨.empty, .new⟩

/-- Something that is done with a store, and the number of steps that it may take. -/
structure Turn where
  deed : Deed
  store : Store
  steps : Nat

namespace Turn

def isRefresh (turn : Turn) : Bool :=
  match turn.deed with
  | .refresh => true
  | .ask _ | .makeCallback _ | .list | .reload => false

/-- Whether the reloader is used, which then looks for modules if it knows none. -/
def isUse (turn : Turn) : Bool :=
  match turn.deed with
  | .list | .refresh | .reload => true
  | .ask _ | .makeCallback _ => false

/-- What is registered with a dispatcher in a turn. -/
def registered (limits : Limits) (placed : Placed) (turn : Turn) : List Entry :=
  match turn.deed with
  | .ask request =>
    seen placed.completes limits.callDepth hostThread turn.steps turn.store
      (request.begins turn.store)
  | .makeCallback _ | .list | .refresh | .reload => []

end Turn

/-- What was registered with a dispatcher, in the order in which that was completed. -/
def registered (limits : Limits) (placed : Placed) (turns : List Turn) : List Entry :=
  turns.flatMap (·.registered limits placed)

/-- The turn in which a reloader found the modules it knows: the last one in which it was told to
look for them, or the first one in which it was used. -/
def finding? (turns : List Turn) : Option Turn :=
  turns.reverse.find? (·.isRefresh) <|> turns.find? (·.isUse)

/-- The store in which a reloader found the modules it knows, which is the present one if it was not
used before. -/
def foundIn (turns : List Turn) (present : Store) : Store :=
  ((finding? turns).map (·.store)).getD present

/-! ### What a cycle asks for -/

/-- The calls of a reloader that calls a routine of every module. -/
def callTurns (limits : Limits) (steps : Nat) (routine : ReloadableModule → RoutineId) :
    Store → List ReloadableModule → List Turn
  | _, [] => []
  | store, module :: others =>
    { deed := .ask (.invoke module.handle (routine module) [] []), store, steps } ::
      match store.invoke limits steps module.handle (routine module) [] [] with
      | some (after, .ok _) => callTurns limits steps routine after others
      | some (_, .error _) | none => []

/-- What a reloader asks of a machine in a cycle. -/
def cycleTurns (limits : Limits) (steps : Nat) (store : Store) (modules : List ReloadableModule) :
    List Turn :=
  callTurns limits steps (·.unload) store modules ++
    match Reloader.callEach limits steps (·.unload) .unload store modules with
    | some (middle, .ok ()) =>
      { deed := .ask .collectGarbage, store := middle, steps } ::
        callTurns limits steps (·.load) middle.collectGarbage modules
    | some (_, .error _) | none => []

/-- What a turn makes of a machine and its reloader, if it is no cycle. -/
inductive Makes (limits : Limits) : Rig → Turn → Rig → Prop where
  | ask (steps : Nat) {rig : Rig} {request : Request} {after : Store}
      (performs : request.perform limits steps rig.store = some after) :
      Makes limits rig ⟨.ask request, rig.store, steps⟩ ⟨after, rig.reloader⟩
  | makeCallback (rig : Rig) (targets : List BoundRoutine) :
      Makes limits rig ⟨.makeCallback targets, rig.store, 0⟩
        ⟨(rig.store.newCallback targets).1, rig.reloader⟩
  | list (rig : Rig) :
      Makes limits rig ⟨.list, rig.store, 0⟩ ⟨rig.store, rig.reloader.settled rig.store⟩
  | refresh (rig : Rig) :
      Makes limits rig ⟨.refresh, rig.store, 0⟩ ⟨rig.store, .refresh rig.store⟩

/-- The histories of a machine and its reloader. -/
inductive Works (limits : Limits) : Rig → List Turn → Rig → Prop where
  | idle {rig : Rig} : Works limits rig [] rig
  | next {rig middle after : Rig} {turn : Turn} {turns : List Turn}
      (makes : Makes limits rig turn middle) (others : Works limits middle turns after) :
      Works limits rig (turn :: turns) after
  | reload (steps : Nat) {rig after : Rig} {middle : Store}
      {result : Except CycleFault CycleReport} {turns : List Turn}
      (reloads : rig.reloader.reload limits steps rig.store = some (middle, result))
      (others : Works limits ⟨middle, rig.reloader.settled rig.store⟩ turns after) :
      Works limits rig (⟨.reload, rig.store, steps⟩ ::
        (cycleTurns limits steps rig.store (rig.reloader.modules rig.store) ++ turns)) after

variable {limits : Limits} {rig middle after : Rig} {turn : Turn} {turns early late : List Turn}
  {store last : Store} {steps : Nat}

/-! ### Turn by turn -/

/-- Turns of which each is made of what the one before it left. When a cycle begins, the reloader
finds its modules. -/
inductive Linked (limits : Limits) : Rig → List Turn → Rig → Prop where
  | nil {rig : Rig} : Linked limits rig [] rig
  | next {rig middle after : Rig} {turn : Turn} {turns : List Turn}
      (makes : Makes limits rig turn middle) (others : Linked limits middle turns after) :
      Linked limits rig (turn :: turns) after
  | begins (steps : Nat) {rig after : Rig} {turns : List Turn}
      (others : Linked limits ⟨rig.store, rig.reloader.settled rig.store⟩ turns after) :
      Linked limits rig (⟨.reload, rig.store, steps⟩ :: turns) after

theorem Linked.append (linked : Linked limits rig early middle)
    (further : Linked limits middle late after) : Linked limits rig (early ++ late) after := by
  induction linked with
  | nil => exact further
  | next makes _ ih => exact .next makes (ih further)
  | begins steps _ ih => exact .begins steps (ih further)

theorem Linked.split (linked : Linked limits rig (early ++ late) after) :
    ∃ middle, Linked limits rig early middle ∧ Linked limits middle late after := by
  induction early generalizing rig with
  | nil => exact ⟨rig, .nil, linked⟩
  | cons turn early ih =>
      cases linked with
      | next makes others =>
          rcases ih others with ⟨middle, first, second⟩
          exact ⟨middle, .next makes first, second⟩
      | begins steps others =>
          rcases ih others with ⟨middle, first, second⟩
          exact ⟨middle, .begins steps first, second⟩

theorem Linked.store_eq (linked : Linked limits rig (turn :: turns) after) :
    turn.store = rig.store := by
  cases linked with
  | next makes => cases makes <;> rfl
  | begins => rfl

theorem callTurns_linked (reloader : Reloader) {routine : ReloadableModule → RoutineId}
    {fault : String → Trap → CycleFault} {modules : List ReloadableModule}
    {result : Except CycleFault Unit}
    (runs : Reloader.callEach limits steps routine fault store modules = some (last, result)) :
    Linked limits ⟨store, reloader⟩ (callTurns limits steps routine store modules)
      ⟨last, reloader⟩ := by
  induction modules generalizing store with
  | nil =>
      cases runs
      exact .nil
  | cons module others ih =>
      rw [Reloader.callEach] at runs
      rw [callTurns]
      rcases invokes : store.invoke limits steps module.handle (routine module) [] [] with
        _ | ⟨middle, trap | value⟩
      · simp only [invokes] at runs
        cases runs
      · have performs : (Request.invoke module.handle (routine module) [] []).perform limits steps
            store = some middle := by simp only [Request.perform, invokes, Option.map_some]
        simp only [invokes] at runs ⊢
        cases runs
        exact .next (.ask steps performs) .nil
      · have performs : (Request.invoke module.handle (routine module) [] []).perform limits steps
            store = some middle := by simp only [Request.perform, invokes, Option.map_some]
        simp only [invokes] at runs ⊢
        exact .next (.ask steps performs) (ih runs)

theorem cycleTurns_linked (reloader : Reloader) {modules : List ReloadableModule}
    {result : Except CycleFault CycleReport}
    (runs : Reloader.cycle limits steps store modules = some (last, result)) :
    Linked limits ⟨store, reloader⟩ (cycleTurns limits steps store modules) ⟨last, reloader⟩ := by
  unfold Reloader.cycle at runs
  unfold cycleTurns
  rcases first : Reloader.callEach limits steps (·.unload) .unload store modules with
    _ | ⟨middle, fault | ⟨⟩⟩
  · simp only [first] at runs
    cases runs
  · simp only [first] at runs ⊢
    cases runs
    rw [List.append_nil]
    exact callTurns_linked reloader first
  · simp only [first] at runs ⊢
    refine (callTurns_linked reloader first).append (.next (.ask steps rfl) ?_)
    rcases second : Reloader.callEach limits steps (·.load) .load middle.collectGarbage modules with
      _ | ⟨_, fault | ⟨⟩⟩
    · simp only [second] at runs
      cases runs
    · simp only [second] at runs
      cases runs
      exact callTurns_linked reloader second
    · simp only [second] at runs
      cases runs
      exact callTurns_linked reloader second

theorem Works.linked (works : Works limits rig turns after) : Linked limits rig turns after := by
  induction works with
  | idle => exact .nil
  | next makes _ ih => exact .next makes ih
  | reload steps reloads _ ih => exact .begins steps ((cycleTurns_linked _ reloads).append ih)

/-! ### The machine -/

theorem Makes.occurs (makes : Makes limits rig turn after) (occurs : rig.store.Occurs) :
    after.store.Occurs := by
  cases makes with
  | ask steps performs => exact (Request.performed performs).occurs occurs
  | makeCallback _ targets => exact .madeCallback occurs targets
  | list | refresh => exact occurs

theorem Linked.occurs (linked : Linked limits rig turns after) (occurs : rig.store.Occurs) :
    after.store.Occurs := by
  induction linked with
  | nil => exact occurs
  | next makes _ ih => exact ih (makes.occurs occurs)
  | begins _ _ ih => exact ih occurs

/-- Modules are loaded after those that are there. -/
theorem Makes.modules_prefix (makes : Makes limits rig turn after) :
    rig.store.modules.toList <+: after.store.modules.toList := by
  cases makes with
  | ask steps performs =>
      rcases (Request.performed performs).modules_eq_or_loads with same | ⟨module, handle, loads⟩
      · exact same ▸ List.prefix_rfl
      · rw [(Store.load_ok loads).2.1]
        simp
  | makeCallback | list | refresh => exact List.prefix_rfl

theorem Linked.modules_prefix (linked : Linked limits rig turns after) :
    rig.store.modules.toList <+: after.store.modules.toList := by
  induction linked with
  | nil => exact List.prefix_rfl
  | next makes _ ih => exact makes.modules_prefix.trans ih
  | begins _ _ ih => exact ih

/-- A module that is loaded stays. -/
theorem Linked.getElem?_modules (linked : Linked limits rig turns after) {position : Nat}
    {module : Module} (loaded : rig.store.modules[position]? = some module) :
    after.store.modules[position]? = some module := by
  rcases List.getElem?_eq_some_iff.mp (Array.getElem?_toList.trans loaded) with ⟨inside, rfl⟩
  have kept := List.prefix_iff_getElem?.mp linked.modules_prefix position inside
  rwa [Array.getElem?_toList] at kept

theorem Linked.modules_prefix_of_mem (linked : Linked limits rig turns after)
    (listed : turn ∈ turns) : turn.store.modules.toList <+: after.store.modules.toList := by
  rcases List.append_of_mem listed with ⟨early, late, rfl⟩
  rcases linked.split with ⟨middle, _, rest⟩
  rw [rest.store_eq]
  exact rest.modules_prefix

/-! ### The reloader -/

theorem finding?_concat (turns : List Turn) (turn : Turn) :
    finding? (turns ++ [turn]) =
      if turn.isRefresh then some turn
      else finding? turns <|> if turn.isUse then some turn else none := by
  unfold finding?
  rw [List.reverse_append, List.reverse_singleton, List.singleton_append, List.find?_cons,
    List.find?_append, List.find?_singleton]
  cases turn.isRefresh with
  | true => simp
  | false => cases turns.reverse.find? (·.isRefresh) <;> simp

/-- A reloader that is asked for modules settles on what it knows, or looks for them. -/
theorem settled_known (reloader : Reloader) (store : Store) :
    (reloader.settled store).known = (reloader.known <|> some (discover store)) := by
  rcases known : reloader.known with _ | modules <;>
    simp [Reloader.settled, Reloader.modules, known]

/-- A reloader knows what it found. -/
theorem Linked.known_eq (linked : Linked limits .new turns rig) :
    rig.reloader.known = (finding? turns).map fun turn => discover turn.store := by
  induction turns using List.reverseRecOn generalizing rig with
  | nil =>
      cases linked
      rfl
  | append_singleton turns turn ih =>
      rcases linked.split with ⟨middle, early, late⟩
      have knows := ih early
      have settles (steps : Nat) (deed : Deed)
          (uses : (Turn.mk deed middle.store steps).isUse = true)
          (settles : (Turn.mk deed middle.store steps).isRefresh = false) :
          (middle.reloader.settled middle.store).known =
            (finding? (turns ++ [Turn.mk deed middle.store steps])).map fun turn =>
              discover turn.store := by
        rw [finding?_concat, uses, settles, settled_known, knows]
        cases finding? turns <;> rfl
      have rests (turn : Turn) (idle : turn.isUse = false) (settles : turn.isRefresh = false) :
          middle.reloader.known =
            (finding? (turns ++ [turn])).map fun turn => discover turn.store := by
        rw [finding?_concat, idle, settles, knows]
        cases finding? turns <;> rfl
      cases late with
      | begins steps others =>
          cases others
          exact settles steps .reload rfl rfl
      | next makes others =>
          cases others
          cases makes with
          | ask steps performs => exact rests _ rfl rfl
          | makeCallback targets => exact rests _ rfl rfl
          | list => exact settles 0 .list rfl rfl
          | refresh =>
              rw [finding?_concat]
              rfl

/-- A reloader works on what it found, or on what it finds now. -/
theorem Linked.modules_eq (linked : Linked limits .new turns rig) :
    rig.reloader.modules rig.store = discover (foundIn turns rig.store) := by
  rw [Reloader.modules, linked.known_eq, foundIn]
  cases finding? turns <;> rfl

theorem finding?_mem (found : finding? turns = some turn) : turn ∈ turns := by
  unfold finding? at found
  rcases last : turns.reverse.find? (·.isRefresh) with _ | latest
  · rw [last] at found
    exact List.mem_of_find?_eq_some found
  · rw [last] at found
    cases found
    exact List.mem_reverse.mp (List.mem_of_find?_eq_some last)

/-- What a reloader found was loaded first. -/
theorem Linked.foundIn_prefix (linked : Linked limits .new turns rig) :
    (foundIn turns rig.store).modules.toList <+: rig.store.modules.toList := by
  unfold foundIn
  rcases found : finding? turns with _ | turn
  · exact List.prefix_rfl
  · exact linked.modules_prefix_of_mem (finding?_mem found)

/-! ### A dispatcher -/

/-- A turn that leaves a dispatcher alone. -/
def Turn.Spares (placed : Placed) (turn : Turn) : Prop :=
  match turn.deed with
  | .ask request => request.Spares placed
  | .makeCallback _ | .list | .refresh | .reload => True

theorem callTurns_spares (placed : Placed) (routine : ReloadableModule → RoutineId)
    (modules : List ReloadableModule) :
    ∀ turn ∈ callTurns limits steps routine store modules, turn.Spares placed := by
  induction modules generalizing store with
  | nil => exact List.forall_mem_nil _
  | cons module others ih =>
      rw [callTurns]
      refine List.forall_mem_cons.mpr ⟨List.forall_mem_nil _, ?_⟩
      split
      · exact ih
      · exact List.forall_mem_nil _
      · exact List.forall_mem_nil _

/-- A cycle leaves dispatchers alone. -/
theorem cycleTurns_spares (placed : Placed) (modules : List ReloadableModule) :
    ∀ turn ∈ cycleTurns limits steps store modules, turn.Spares placed := by
  refine List.forall_mem_append.mpr ⟨callTurns_spares placed _ modules, ?_⟩
  split
  · exact List.forall_mem_cons.mpr ⟨trivial, callTurns_spares placed _ modules⟩
  · exact List.forall_mem_nil _
  · exact List.forall_mem_nil _

section Follows

variable {desk : Desk} {ledger : List Entry}

theorem Makes.follows (makes : Makes limits rig turn after)
    (follows : desk.Follows ledger rig.store) (occurs : rig.store.Occurs)
    (spares : turn.Spares desk.toPlaced)
    (arrives : ∀ module, after.store.modules[desk.handle.position]? = some module →
      module = desk.module) :
    desk.Follows (ledger ++ turn.registered limits desk.toPlaced) after.store := by
  cases makes with
  | ask steps performs => exact follows.performed occurs spares arrives (Request.performed performs)
  | makeCallback _ targets =>
      rw [show Turn.registered limits desk.toPlaced _ = [] from rfl, List.append_nil]
      cases follows with
      | absent unloaded within => exact .absent unloaded within
      | present keeps => exact .present keeps.issue
  | list | refresh =>
      rw [show Turn.registered limits desk.toPlaced _ = [] from rfl, List.append_nil]
      exact follows

/-- A history that leaves a dispatcher alone adds to its ledger what is registered. -/
theorem Linked.follows (linked : Linked limits rig turns after)
    (follows : desk.Follows ledger rig.store) (occurs : rig.store.Occurs)
    (spares : ∀ turn ∈ turns, turn.Spares desk.toPlaced)
    (loaded : after.store.modules[desk.handle.position]? = some desk.module) :
    desk.Follows (ledger ++ registered limits desk.toPlaced turns) after.store := by
  induction linked generalizing ledger with
  | nil =>
      rw [registered, List.flatMap_nil, List.append_nil]
      exact follows
  | @next rig middle after turn turns makes others ih =>
      rcases List.forall_mem_cons.mp spares with ⟨first, rest⟩
      have arrives (module : Module)
          (there : middle.store.modules[desk.handle.position]? = some module) :
          module = desk.module := by
        have kept := others.getElem?_modules there
        rw [loaded] at kept
        exact (Option.some.inj kept).symm
      rw [registered, List.flatMap_cons, ← List.append_assoc]
      exact ih (makes.follows follows occurs first arrives) (makes.occurs occurs) rest loaded
  | begins steps _ ih =>
      rcases List.forall_mem_cons.mp spares with ⟨_, rest⟩
      exact ih follows occurs rest loaded

/-- In a history from the start that leaves a dispatcher alone, the dispatcher lists what was
registered with it. -/
theorem Linked.keeps (linked : Linked limits .new turns rig)
    (spares : ∀ turn ∈ turns, turn.Spares desk.toPlaced)
    (loaded : rig.store.modules[desk.handle.position]? = some desk.module) :
    desk.Keeps (registered limits desk.toPlaced turns) rig.store :=
  (linked.follows (.absent (Nat.zero_le _) (.empty _)) .fresh spares loaded).keeps loaded

end Follows

end Rekindle.Reload
