import Rekindle.Proofs.Cycles.Desk
import Rekindle.Proofs.Machine.InTurn

/-!
# Invoking what is listed

The routine of a dispatcher that invokes a callback reads the slot once, and calls what the slot
listed then: one target after the other, until one fails. What is registered meanwhile it does not
see. It initializes the dispatcher type if it is the first to use it.
-/

namespace Rekindle.Machine

open Fallible Reload

namespace Desk

/-- An execution of a routine that invokes at one of its instructions. -/
def invoking (desk : Desk) (occasion : Occasion) (position : Nat) (operands : List Value) :
    Frame where
  module := desk.handle
  routine := desk.dispatcher.invoker occasion
  name := desk.module.routineName (desk.dispatcher.invoker occasion)
  body := Dispatcher.invokeBody (desk.site occasion).reference
  returns := false
  arguments := []
  parameters := #[]
  locals := #[]
  operands := ⟨operands⟩
  position

/-- A store in which the dispatcher type is in use, and that does not change when it is asked for. -/
structure Open (desk : Desk) (ledger : List Entry) (store : Store) : Prop where
  keeps : desk.Keeps ledger store
  asks : store.ask hostThread desk.dispatching = .ok (store, .ready)
  holds : ∀ occasion, ∃ base value, (desk.site occasion).Holds hostThread store base value ∧
    value.IsCombinable ∧ value.targets = onOccasion occasion ledger

variable {desk : Desk} {ledger : List Entry} {store after : Store} {storage : Storage}
  {limit level : Nat} {occasion : Occasion} {trap? : Option Trap} {value : Value}

/-! ### Opening -/

/-- When a dispatcher type in use was asked for, it may be asked for again. -/
theorem Keeps.opened (keeps : desk.Keeps ledger store)
    (found : store.storage? desk.dispatching = some storage) :
    desk.Open ledger { store with waits := store.waits.erase hostThread } := by
  have keepsAfter : desk.Keeps ledger { store with waits := store.waits.erase hostThread } :=
    keeps.of_same keeps.loaded rfl keeps.within
  refine ⟨keepsAfter, ?_, fun occasion => ?_⟩
  · have active : Store.IsActive hostThread { store with waits := store.waits.erase hostThread }
        desk.dispatching := ⟨storage, found, ((keeps.records .load).present storage found).active⟩
    rw [active.ask_eq, Waits.erase_erase]
  · have shows := (keeps.records occasion).present storage found
    rcases shows.held with ⟨value, held, combinable, targets_eq⟩
    exact ⟨storage, value, ⟨keeps.loaded, found, shows.active, held⟩, combinable, targets_eq⟩

/-- What asks for the dispatcher type comes to go on, in one store whatever it is. -/
theorem Keeps.opens (keeps : desk.Keeps ledger store) :
    ∃ middle opened, desk.Open ledger opened ∧ ∀ limit waiting proceed,
      (∀ other : Store, other.modules = store.modules →
        attempt limit hostThread other waiting =
          acquire limit hostThread other desk.dispatching waiting proceed) →
      Leads limit hostThread store waiting middle waiting ∧
        attempt limit hostThread middle waiting = proceed opened := by
  rcases found : store.storage? desk.dispatching with _ | storage
  · have missing : store.storage? (desk.site .load).slot.instantiation = none := found
    rcases Site.initializes hostThread (keeps.records .load).loaded missing with
      ⟨asked, middle, base, value, asks, loaded, published, beside, _, holds, _⟩
    rcases Store.ask_ok asks with ⟨_, told⟩
    have keepsMiddle : desk.Keeps ledger middle := by
      rw [published]
      exact (keeps.ask told).publish fun _ => rfl
    refine ⟨middle, _, keepsMiddle.opened holds.present, ?_⟩
    intro limit waiting proceed acquires
    have starts : attempt limit hostThread store waiting =
        .running asked (.initializer desk.dispatching :: waiting) := by
      have none : initializerOf asked desk.dispatching = none :=
        Site.initializerOf_eq_none loaded
      have run : store.ask hostThread desk.dispatching = .ok (asked, .run) := asks
      rw [acquires store rfl]
      simp only [acquire, run, startInitializer, none]
    have ends : attempt limit hostThread asked (.initializer desk.dispatching :: waiting) =
        .running middle waiting := by
      rw [published]
      rfl
    refine ⟨(Leads.of_running starts).trans (.of_running ends), ?_⟩
    have ready : middle.ask hostThread desk.dispatching = .ok (_, .ready) := holds.isActive.ask_eq
    rw [acquires middle beside.modules_eq]
    simp only [acquire, ready]
  · have active : store.IsActive hostThread desk.dispatching :=
      ⟨storage, found, ((keeps.records .load).present storage found).active⟩
    refine ⟨store, _, keeps.opened found, ?_⟩
    intro limit waiting proceed acquires
    refine ⟨.refl, ?_⟩
    rw [acquires store rfl]
    simp only [acquire, active.ask_eq]

/-! ### The routine -/

/-- Where a call of a routine that invokes asks for the dispatcher type. -/
theorem Keeps.call_invoker (keeps : desk.Keeps ledger store) (occasion : Occasion)
    {other : Store} (same : other.modules = store.modules) (limit : Nat)
    (below : List Activation) :
    attempt limit hostThread other (.call (desk.invoker occasion) [] :: below) =
      acquire limit hostThread other desk.dispatching (.call (desk.invoker occasion) [] :: below)
        fun ready => entering limit ready (desk.invoker occasion) [] below := by
  rcases desk.tended.invokes occasion with ⟨markers, name, declared⟩
  have loaded : other.modules[desk.handle.position]? = some desk.module := same ▸ keeps.loaded
  have owned : ownerOf other (desk.invoker occasion) = .ok desk.dispatching := by
    simp [ownerOf, Store.module, Placed.invoker, loaded, declared]
    rfl
  rw [attempt, call_eq owned]

theorem Open.enter_eq (isOpen : desk.Open ledger store) (occasion : Occasion) {depth : Nat}
    (enough : ¬limit < depth) :
    Frame.enter limit depth store (desk.invoker occasion) [] =
      .ok (desk.invoking occasion 0 []) := by
  rcases desk.tended.invokes occasion with ⟨markers, name, declared⟩
  have loaded : store.module (desk.invoker occasion).module = .ok desk.module := by
    simp [Store.module, Placed.invoker, isOpen.keeps.loaded]
  exact enter_of_body enough loaded declared rfl rfl

theorem Open.loads (isOpen : desk.Open ledger store)
    (holds : (desk.site occasion).Holds hostThread store storage value) (limit : Nat)
    (below : List Activation) :
    attempt limit hostThread store (.body (desk.invoking occasion 0 []) :: below) =
      .running store (.body (desk.invoking occasion 1 [value]) :: below) := by
  have registering : ((desk.site occasion).frame .null 0 .null .null .null []).address store
      (desk.site occasion).reference = .ok (desk.site occasion).slot := Site.address_eq holds.loaded
  have place : (desk.invoking occasion 0 []).address store (desk.site occasion).reference =
      .ok (desk.site occasion).slot := registering
  have unfolded : attempt limit hostThread store
      (.body (desk.invoking occasion 0 []) :: below) =
      accessField limit hostThread store (desk.invoking occasion 0 []) below
        (desk.site occasion).reference fun store address => do
          let value ← store.read address
          return (store, ← (desk.invoking occasion 0 []).yield value) := rfl
  have asks : store.ask hostThread (desk.site occasion).slot.instantiation =
      .ok (store, .ready) := isOpen.asks
  have reads : store.read (desk.site occasion).slot = .ok value := by
    simp only [Store.read, holds.slot?_eq]
  rw [unfolded, accessField, place]
  simp only [acquire, asks, reads, ok_bind]
  rfl

/-- Where nothing is listed, a routine that invokes is about to return. -/
theorem Open.skips (isOpen : desk.Open ledger store)
    (holds : (desk.site occasion).Holds hostThread store storage .null) (limit : Nat)
    (below : List Activation) :
    Leads limit hostThread store (.body (desk.invoking occasion 0 []) :: below)
      store (.body (desk.invoking occasion 4 []) :: below) :=
  (Leads.of_running (isOpen.loads holds limit below)).trans
    (.step rfl (.step rfl (.of_running rfl)))

/-- What is listed is called above the routine that invokes it. -/
theorem Open.finds {object : Callback} (isOpen : desk.Open ledger store)
    (holds : (desk.site occasion).Holds hostThread store storage (.callback object)) (limit : Nat)
    (below : List Activation) :
    Leads limit hostThread store (.body (desk.invoking occasion 0 []) :: below)
      store (.targets object.targets :: .body (desk.invoking occasion 5 []) :: below) :=
  (Leads.of_running (isOpen.loads holds limit below)).trans
    (.step rfl (.step rfl (.of_running rfl)))

/-- When what is listed has been called, the routine that invoked it ends in the same way. -/
theorem ends_of_resumption (occasion : Occasion) {middle : Store} {passed? : Option Trap} :
    (resumption middle ([.body (desk.invoking occasion 5 [])] ++ resting level) passed?).Ends
        limit hostThread after trap? ↔ after = middle ∧ trap? = passed? := by
  cases passed? with
  | none =>
      have resumes : resumption middle
          ([.body (desk.invoking occasion 5 [])] ++ resting level) none =
          .running middle (.body (desk.invoking occasion 6 []) :: resting level) := rfl
      have returns : step limit hostThread middle
          (.body (desk.invoking occasion 6 []) :: resting level) =
          (complete middle none (resting level)).settle := rfl
      rw [resumes, Progress.ends_running_iff, returns]
      exact complete_resting middle none level
  | some trap =>
      have passes : (desk.invoking occasion 5 []).receive trap = .error trap :=
        receive_of_unguarded rfl trap
      have unwinds : resumption middle
          ([.body (desk.invoking occasion 5 [])] ++ resting level) (some trap) =
          .finished middle (.error trap) := by
        simp only [resumption, List.singleton_append, unwind, passes, unwind_resting]
      rw [unwinds]
      exact Progress.ends_finished_iff

/-- A routine that invokes comes to what calls of the listed targets come to in turn. -/
theorem Open.endsAbove_invoking (isOpen : desk.Open ledger store) (occasion : Occasion) :
    EndsAbove limit hostThread level store [.body (desk.invoking occasion 0 [])] after trap? ↔
      InTurn limit hostThread (level + 1) store (onOccasion occasion ledger) after trap? := by
  rcases isOpen.holds occasion with ⟨base, value, holds, combinable, targets_eq⟩
  rw [← targets_eq]
  cases value with
  | null =>
      have returns : step limit hostThread store
          (.body (desk.invoking occasion 4 []) :: resting level) =
          (complete store none (resting level)).settle := rfl
      rw [EndsAbove, List.singleton_append,
        Progress.ends_of_leads (isOpen.skips holds limit (resting level)),
        Progress.ends_running_iff, returns]
      exact (complete_resting store none level).trans inTurn_nil_iff.symm
  | callback object =>
      let waiting : List Activation := [.body (desk.invoking occasion 5 [])]
      have heedless : Heedless store.modules (waiting ++ resting level) := fun _ _ _ => rfl
      have start : EndsAbove limit hostThread level store
          [.body (desk.invoking occasion 0 [])] after trap? ↔
          EndsAbove limit hostThread level store ([.targets object.targets] ++ waiting) after
            trap? :=
        Progress.ends_of_leads (isOpen.finds holds limit (resting level))
      rw [start, endsAbove_append (.single (by simp)) heedless]
      constructor
      · rintro ⟨middle, passed?, turn, ends⟩
        rcases (ends_of_resumption occasion).mp ends with ⟨rfl, rfl⟩
        exact (endsAbove_targets object.targets).mp turn
      · intro turn
        exact ⟨after, trap?, (endsAbove_targets object.targets).mpr turn,
          (ends_of_resumption occasion).mpr ⟨rfl, rfl⟩⟩
  | _ => cases combinable

/-- A call of a routine that invokes opens the dispatcher type and comes to what calls of the
targets come to in turn that were listed before. -/
theorem Keeps.endsAbove_invoker (keeps : desk.Keeps ledger store) (occasion : Occasion)
    (enough : ¬limit < level + 1) :
    ∃ opened, EndsAbove limit hostThread level store [.access desk.dispatching] opened none ∧
      ∀ after trap?,
        EndsAbove limit hostThread level store [.call (desk.invoker occasion) []] after trap? ↔
          InTurn limit hostThread (level + 1) opened (onOccasion occasion ledger) after trap? := by
  rcases keeps.opens with ⟨middle, opened, isOpen, opens⟩
  refine ⟨opened, ?_, fun after trap? => ?_⟩
  · rcases opens limit (.access desk.dispatching :: resting level)
      (fun ready => complete ready none (resting level)) (fun _ _ => rfl) with ⟨leads, attempted⟩
    have steps : step limit hostThread middle (.access desk.dispatching :: resting level) =
        (complete opened none (resting level)).settle := by
      rw [step, attempted]
    rw [EndsAbove, List.singleton_append, Progress.ends_of_leads leads,
      Progress.ends_running_iff, steps]
    exact (complete_resting opened none level).mpr ⟨rfl, rfl⟩
  · rcases opens limit (.call (desk.invoker occasion) [] :: resting level) _
      (fun _ same => keeps.call_invoker occasion same limit (resting level)) with
      ⟨leads, attempted⟩
    have deep : ¬limit < depth (resting level) + 1 := by rwa [depth_resting]
    rw [entering, isOpen.enter_eq occasion deep] at attempted
    have start : EndsAbove limit hostThread level store [.call (desk.invoker occasion) []] after
        trap? ↔ EndsAbove limit hostThread level opened [.body (desk.invoking occasion 0 [])] after
          trap? :=
      (Progress.ends_of_leads leads).trans (Progress.ends_of_settle attempted)
    exact start.trans (isOpen.endsAbove_invoking occasion)

end Desk

end Rekindle.Machine
