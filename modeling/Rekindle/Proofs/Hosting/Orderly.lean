import Rekindle.Proofs.Hosting.Asking

/-!
# Orderly stacks

What the host's thread has on its stack while it initializes: every body that is executed belongs to
an instantiation that is initialized or whose initializer is to end below, and what waits below an
initializer is what asked for it. No step of the thread breaks the order.
-/

namespace Rekindle.Machine

/-- Whether nothing of this part of a stack is in execution. -/
def Activation.isWaiting : Activation → Bool
  | .targets _ | .call _ _ | .access _ => true
  | .body _ | .initializer _ => false

/-- A stack in which the initializers have begun where a thread asked for them with the stack that is
below, and bodies are executed for instantiations that can be used. -/
inductive Ordered (began : List Activation → Instantiation → Prop) (store : Store) :
    List Activation → Prop where
  | nil : Ordered began store []
  | waiting {activation : Activation} {below : List Activation}
      (waits : activation.isWaiting = true) (others : Ordered began store below) :
      Ordered began store (activation :: below)
  | body {frame : Frame} {below : List Activation} {owner : Instantiation}
      (owned : ownerOf store frame.executed = .ok owner)
      (active : store.status? owner = some .done ∨ owner ∈ initializing below)
      (others : Ordered began store below) : Ordered began store (.body frame :: below)
  | initializer {instantiation : Instantiation} {below : List Activation}
      (asks : Asks store below instantiation) (begins : began below instantiation)
      (others : Ordered began store below) :
      Ordered began store (.initializer instantiation :: below)

/-- A store and a stack of the host's thread that are in order. -/
structure Orderly (began : List Activation → Instantiation → Prop) (store : Store)
    (activations : List Activation) : Prop where
  passed : AllPassed store.modules
  settled : Settled store (initializing activations)
  ordered : Ordered began store activations

/-- What comes of an attempt that keeps the order while no initializer fails. -/
def Attempt.Orderly (began : List Activation → Instantiation → Prop) (store : Store) :
    Attempt → Prop
  | .running after next | .raised after _ next => store.Goes after ∧ Machine.Orderly began after next
  | .blocked _ _ => False
  | .returned after _ => store.Goes after ∧ Machine.Orderly began after []

/-- A later store: loaded modules stay, and statuses advance. -/
structure Store.Evolves (store after : Store) : Prop where
  loaded : ∀ (position : Nat) (module : Module), store.modules[position]? = some module →
    after.modules[position]? = some module
  advances : ∀ instantiation,
    Advances (store.status? instantiation) (after.status? instantiation)

/-- What happens next, which keeps the order. An initializer that fails leads back to what asked for
it. -/
structure GoesOn (began : List Activation → Instantiation → Prop) (store after : Store)
    (next : List Activation) : Prop where
  evolves : store.Evolves after
  failed : ∀ instantiation cause, after.status? instantiation = some (.failed cause) →
    store.status? instantiation = some (.failed cause) ∨
      Asks after next instantiation ∧ began next instantiation
  orderly : Machine.Orderly began after next

/-- What a step leads to that keeps the order. -/
def Progress.Orderly (began : List Activation → Instantiation → Prop) (store : Store) :
    Progress → Prop
  | .running after next => GoesOn began store after next
  | .blocked _ _ => False
  | .finished after _ => GoesOn began store after []

variable {began more : List Activation → Instantiation → Prop} {store middle after : Store}
  {activations below : List Activation} {instantiation : Instantiation} {limit : Nat}
  {frame next : Frame} {trap : Trap} {target : BoundRoutine} {result : Option Value}

/-! ### Everything -/

/-- The scope that everything is in. -/
def everything : Scope where
  routines := fun _ => True
  places := fun _ => True

theorem Value.within_everything (value : Value) : value.Within everything := by
  cases value <;> simp [Value.Within, everything]

theorem Frame.within_everything (frame : Frame) : frame.Within everything :=
  ⟨fun value _ => value.within_everything, fun value _ => value.within_everything,
    fun value _ => value.within_everything⟩

theorem Store.within_everything (store : Store) : store.Within everything :=
  fun _ value _ => value.within_everything

theorem Trap.within_everything (trap : Trap) : trap.Within everything := by
  cases trap with
  | thrown value => exact value.within_everything
  | _ => trivial

/-! ### Statuses -/

namespace Store.Evolves

theorem refl (store : Store) : store.Evolves store :=
  ⟨fun _ _ loaded => loaded, fun _ => .refl⟩

theorem trans (first : store.Evolves middle) (second : middle.Evolves after) :
    store.Evolves after :=
  ⟨fun position module loaded =>
      second.loaded position module (first.loaded position module loaded),
    fun instantiation => (first.advances instantiation).trans (second.advances instantiation)⟩

/-- An initialization that has ended stays as it is. -/
theorem final (evolves : store.Evolves after) {status : Status Trap}
    (found : store.status? instantiation = some status) (final : status.IsFinal) :
    after.status? instantiation = some status := by
  have advances := evolves.advances instantiation
  rw [found] at advances
  exact advances.eq_of_final final

end Store.Evolves

namespace Settled

variable {instantiations : List Instantiation}

theorem of_same (settled : Settled store instantiations)
    (same : ∀ other, after.status? other = store.status? other) :
    Settled after instantiations := by
  refine ⟨⟨settled.started.distinct, ?_⟩, ?_⟩
  · intro other listed
    rw [same]
    exact settled.started.running other listed
  · intro other status found
    rw [same] at found
    exact settled.others other status found

/-- The host's thread begins with an initializer. -/
theorem run (settled : Settled store instantiations)
    (unseen : store.status? instantiation = none)
    (running : after.status? instantiation = some (.running hostThread))
    (same : ∀ other, other ≠ instantiation → after.status? other = store.status? other) :
    Settled after (instantiation :: instantiations) := by
  have fresh : instantiation ∉ instantiations := by
    intro listed
    rw [settled.started.running instantiation listed] at unseen
    cases unseen
  have apart {other : Instantiation} (listed : other ∈ instantiations) : other ≠ instantiation := by
    rintro rfl
    exact fresh listed
  refine ⟨⟨List.nodup_cons.mpr ⟨fresh, settled.started.distinct⟩, ?_⟩, ?_⟩
  · refine List.forall_mem_cons.mpr ⟨running, ?_⟩
    intro other listed
    rw [same other (apart listed)]
    exact settled.started.running other listed
  · intro other status found
    by_cases here : other = instantiation
    · exact .inr (here ▸ List.mem_cons_self)
    · rw [same other here] at found
      exact (settled.others other status found).imp_right (List.mem_cons_of_mem _)

/-- The initializer that began last ends. -/
theorem publish (settled : Settled store (instantiation :: instantiations))
    (outcome : Except Trap Unit) :
    Settled (store.publish instantiation outcome) instantiations := by
  refine ⟨settled.started.publish outcome, ?_⟩
  intro other status found
  rw [Store.status?_publish] at found
  split at found
  · rw [settled.started.first] at found
    cases found
    left
    cases outcome <;> trivial
  · rename_i apart
    rcases settled.others other status found with final | listed
    · exact .inl final
    · rcases List.mem_cons.mp listed with same | later
      · exact absurd same apart
      · exact .inr later

/-- An instantiation that the thread goes on with is being initialized by it or is initialized. -/
theorem usable (settled : Settled store instantiations)
    (active : store.status? instantiation = some .done ∨ instantiation ∈ instantiations) :
    store.status? instantiation = some (.running hostThread) ∨
      store.status? instantiation = some .done :=
  active.symm.imp_left (settled.started.running instantiation)

/-- The status of an instantiation whose initializer ends. -/
theorem advances_publish (settled : Settled store (instantiation :: instantiations))
    (outcome : Except Trap Unit) (other : Instantiation) :
    Advances (store.status? other) ((store.publish instantiation outcome).status? other) := by
  rw [Store.status?_publish]
  split
  · rename_i same
    rw [same, settled.started.first]
    exact .single (.ends outcome)
  · exact .refl

end Settled

/-! ### Stacks -/

theorem initializing_waiting {activation : Activation} (waits : activation.isWaiting = true)
    (below : List Activation) : initializing (activation :: below) = initializing below := by
  cases activation with
  | body | initializer => cases waits
  | targets | call | access => rfl

namespace Ordered

theorem mono (ordered : Ordered began store activations)
    (implies : ∀ activations instantiation, began activations instantiation →
      more activations instantiation) : Ordered more store activations := by
  induction ordered with
  | nil => exact .nil
  | waiting waits _ ih => exact .waiting waits ih
  | body owned active _ ih => exact .body owned active ih
  | initializer asks begins _ ih => exact .initializer asks (implies _ _ begins) ih

theorem of_store (ordered : Ordered began store activations)
    (modules : after.modules = store.modules)
    (done : ∀ instantiation, store.status? instantiation = some .done →
      after.status? instantiation = some .done) : Ordered began after activations := by
  induction ordered with
  | nil => exact .nil
  | waiting waits _ ih => exact .waiting waits ih
  | body owned active _ ih =>
      refine .body ?_ (active.imp_left (done _)) ih
      rw [ownerOf_eq_ok_iff, modules]
      exact ownerOf_eq_ok_iff.mp owned
  | initializer asks begins _ ih => exact .initializer (asks.of_modules modules) begins ih

theorem executes (ordered : Ordered began store activations) {frame : Frame}
    (listed : .body frame ∈ activations) : ∃ owner, ownerOf store frame.executed = .ok owner ∧
      (store.status? owner = some .done ∨ owner ∈ initializing activations) := by
  induction ordered with
  | nil => cases listed
  | @waiting activation below waits _ ih =>
      rcases List.mem_cons.mp listed with rfl | later
      · cases waits
      · rw [initializing_waiting waits]
        exact ih later
  | @body other below owner owned active _ ih =>
      rcases List.mem_cons.mp listed with same | later
      · cases same
        exact ⟨owner, owned, active⟩
      · exact ih later
  | initializer _ _ _ ih =>
      rcases List.mem_cons.mp listed with same | later
      · cases same
      · rcases ih later with ⟨owner, owned, active⟩
        exact ⟨owner, owned, active.imp_right (List.mem_cons_of_mem _)⟩

end Ordered

namespace Orderly

theorem of_same (orderly : Orderly began store activations)
    (modules : after.modules = store.modules)
    (same : ∀ instantiation, after.status? instantiation = store.status? instantiation) :
    Orderly began after activations := by
  refine ⟨modules ▸ orderly.passed, orderly.settled.of_same same,
    orderly.ordered.of_store modules ?_⟩
  intro instantiation done
  rw [same, done]

theorem push {activation : Activation} (orderly : Orderly began store activations)
    (waits : activation.isWaiting = true) : Orderly began store (activation :: activations) := by
  refine ⟨orderly.passed, ?_, .waiting waits orderly.ordered⟩
  rw [initializing_waiting waits]
  exact orderly.settled

theorem pop {activation : Activation} (orderly : Orderly began store (activation :: activations))
    (waits : activation.isWaiting = true) : Orderly began store activations := by
  have settled := orderly.settled
  rw [initializing_waiting waits] at settled
  refine ⟨orderly.passed, settled, ?_⟩
  cases orderly.ordered with
  | waiting _ others => exact others
  | body | initializer => cases waits

theorem leave (orderly : Orderly began store (.body frame :: below)) :
    Orderly began store below := by
  refine ⟨orderly.passed, orderly.settled, ?_⟩
  cases orderly.ordered with
  | waiting waits => cases waits
  | body _ _ others => exact others

/-- The frame on top goes on. -/
theorem stays {scope : Scope} (orderly : Orderly began store (.body frame :: below))
    (stays : frame.Stays scope next) : Orderly began store (.body next :: below) := by
  refine ⟨orderly.passed, orderly.settled, ?_⟩
  cases orderly.ordered with
  | waiting waits => cases waits
  | body owned active others => exact .body (stays.executed_eq ▸ owned) active others

/-- The initializer on top ends. -/
theorem publish (orderly : Orderly began store (.initializer instantiation :: below))
    (outcome : Except Trap Unit) :
    Orderly began (store.publish instantiation outcome) below := by
  refine ⟨orderly.passed, orderly.settled.publish outcome, ?_⟩
  cases orderly.ordered with
  | waiting waits => cases waits
  | initializer _ _ others =>
      refine others.of_store rfl ?_
      intro other done
      have apart : other ≠ instantiation := by
        rintro rfl
        rw [orderly.settled.started.first] at done
        cases done
      rw [Store.status?_publish, if_neg apart, done]

end Orderly

/-! ### Traps -/

theorem Attempt.Orderly.trans {attempt : Attempt} (goes : store.Goes middle)
    (orderly : attempt.Orderly began middle) : attempt.Orderly began store := by
  cases attempt with
  | running | raised | returned => exact ⟨goes.trans orderly.1, orderly.2⟩
  | blocked => exact orderly

theorem Store.Goes.goesOn {next : List Activation} (goes : store.Goes after)
    (orderly : Orderly began after next) : GoesOn began store after next :=
  ⟨⟨fun _ _ loaded => goes.modules_eq ▸ loaded, goes.advances⟩,
    fun instantiation cause failed => .inl (goes.failed instantiation cause failed), orderly⟩

theorem Orderly.goesOn_of_same (orderly : Orderly began store activations)
    (modules : after.modules = store.modules)
    (same : ∀ instantiation, after.status? instantiation = store.status? instantiation) :
    GoesOn began store after activations :=
  (Store.Goes.of_same modules same).goesOn (orderly.of_same modules same)

theorem GoesOn.mono (goesOn : GoesOn began store after activations)
    (implies : ∀ activations instantiation, began activations instantiation →
      more activations instantiation) : GoesOn more store after activations :=
  ⟨goesOn.evolves,
    fun instantiation cause failed =>
      (goesOn.failed instantiation cause failed).imp_right (And.imp_right (implies _ _)),
    goesOn.orderly.passed, goesOn.orderly.settled, goesOn.orderly.ordered.mono implies⟩

/-- An initializer that fails leads back to what asked for it. -/
theorem Orderly.fails (goes : store.Goes middle)
    (orderly : Orderly began middle (.initializer instantiation :: below)) (trap : Trap) :
    GoesOn began store (middle.publish instantiation (.error trap)) below := by
  refine ⟨⟨fun _ _ loaded => goes.modules_eq ▸ loaded, ?_⟩, ?_, orderly.publish _⟩
  · intro other
    exact (goes.advances other).trans (orderly.settled.advances_publish _ other)
  · intro other cause failed
    by_cases same : other = instantiation
    · right
      subst same
      cases orderly.ordered with
      | waiting waits => cases waits
      | initializer asks begins _ => exact ⟨asks.of_modules rfl, begins⟩
    · rw [Store.status?_publish, if_neg same] at failed
      exact .inl (goes.failed other cause failed)

theorem unwind_orderly (goes : store.Goes middle) (orderly : Orderly began middle activations)
    (trap : Trap) : (unwind middle trap activations).Orderly began store := by
  induction activations generalizing trap with
  | nil => exact goes.goesOn orderly
  | cons activation below ih =>
      cases activation with
      | targets | call | access => exact ih (orderly.pop rfl) trap
      | body frame =>
          have receives := Frame.receive_confined frame.within_everything trap.within_everything
          rcases received : frame.receive trap with passed | next
          · simp only [unwind, received]
            exact ih orderly.leave passed
          · rw [received] at receives
            simp only [unwind, received]
            exact goes.goesOn (orderly.stays receives)
      -- The trap goes no further: what asked for the instantiation is told of it when it asks again.
      | initializer instantiation => exact orderly.fails goes trap

/-- A trap that is not a thrown value takes a thread to its end when it initializes nothing. -/
theorem unwind_uncaught {trap : Trap} (uncaught : ∀ value, trap ≠ .thrown value)
    (none : initializing activations = []) :
    unwind store trap activations = .finished store (.error trap) := by
  have passes (frame : Frame) : frame.receive trap = .error trap := by
    cases trap with
    | thrown value => exact absurd rfl (uncaught value)
    | _ => rfl
  induction activations with
  | nil => rfl
  | cons activation below ih =>
      cases activation with
      | initializer => cases none
      | body frame =>
          simp only [unwind, passes]
          exact ih none
      | targets | call | access => exact ih none

theorem Attempt.Orderly.settle {attempt : Attempt} (orderly : attempt.Orderly began store) :
    attempt.settle.Orderly began store := by
  cases attempt with
  | running | returned => exact orderly.1.goesOn orderly.2
  | raised => exact unwind_orderly orderly.1 orderly.2 _
  | blocked => exact orderly

/-! ### Attempts -/

theorem complete_orderly (orderly : Orderly began store activations) (result : Option Value) :
    (complete store result activations).Orderly began store := by
  unfold complete
  split
  · exact ⟨.refl store, orderly⟩
  · rename_i frame below
    have resumes : everything.Confines (frame.resume store result) _ :=
      Frame.resume_confined frame.within_everything store fun value _ => value.within_everything
    rcases resumed : frame.resume store result with trap | next
    · exact ⟨.refl store, orderly⟩
    · rw [resumed] at resumes
      exact ⟨.refl store, orderly.stays resumes⟩
  · exact ⟨.refl store, orderly⟩

/-- A routine is entered for an instantiation that can be used. -/
theorem entering_orderly (orderly : Orderly began store activations)
    (owned : ownerOf store target = .ok instantiation)
    (active : store.status? instantiation = some .done ∨ instantiation ∈ initializing activations)
    (limit : Nat) (parameters : List Value) :
    (entering limit store target parameters activations).Orderly began store := by
  have enters : everything.Confines
      (Frame.enter limit (depth activations + 1) store target parameters) _ :=
    enter_confined fun value _ => value.within_everything
  rcases entered : Frame.enter limit (depth activations + 1) store target parameters with
    trap | frame
  · simp only [entering, entered]
    exact ⟨.refl store, orderly⟩
  · rw [entered] at enters
    rcases enters with ⟨_, module, routine, body, _, _, _, rfl⟩
    simp only [entering, entered]
    exact ⟨.refl store, orderly.passed, orderly.settled, .body owned active orderly.ordered⟩

theorem startInitializer_orderly
    (orderly : Orderly began store (.initializer instantiation :: activations)) (limit : Nat) :
    (startInitializer limit store instantiation activations).Orderly began store := by
  rcases found : initializerOf store instantiation with _ | target
  · simp only [startInitializer, found]
    exact ⟨.refl store, orderly⟩
  · rw [startInitializer_eq found]
    exact entering_orderly orderly (ownerOf_initializer orderly.passed found)
      (.inr List.mem_cons_self) limit []

/-- What needs an instantiation goes on with it when it can be used; otherwise its initializer
begins, or has failed before. -/
theorem acquire_orderly (orderly : Orderly began store activations)
    (asks : Asks store activations instantiation)
    (begins : Starts hostThread store activations instantiation → began activations instantiation)
    {proceed : Store → Attempt}
    (goesOn : ∀ after, store.Goes after → Orderly began after activations →
      (after.status? instantiation = some .done ∨ instantiation ∈ initializing activations) →
        (proceed after).Orderly began after) :
    (acquire limit hostThread store instantiation activations proceed).Orderly began store := by
  rcases asked : store.ask hostThread instantiation with trap | ⟨after, ticket⟩
  · simp only [acquire, asked]
    exact ⟨.refl store, orderly⟩
  · rcases Store.ask_ok asked with ⟨storage, wasAsked⟩
    have modules := wasAsked.modules_eq
    simp only [acquire, asked]
    cases orderly.settled.told wasAsked with
    | ready active same =>
        have goes : store.Goes after := .of_same modules same
        have still : after.status? instantiation = some .done ∨
            instantiation ∈ initializing activations := by
          rw [same]
          exact active
        exact (goesOn after goes (orderly.of_same modules same) still).trans goes
    | run unseen running same =>
        have begun : began activations instantiation := begins ⟨asks, after, asked⟩
        have goes : store.Goes after := by
          refine ⟨modules, ?_, ?_⟩
          · intro other
            -- Asking makes the storage and starts its initializer in one go.
            by_cases here : other = instantiation
            · rw [here, unseen, running]
              exact .tail (.single .arises) .starts
            · rw [same other here]
          · intro other cause failed
            by_cases here : other = instantiation
            · rw [here, running] at failed
              cases failed
            · rwa [same other here] at failed
        have done (other : Instantiation) (done : store.status? other = some .done) :
            after.status? other = some .done := by
          by_cases here : other = instantiation
          · rw [here, unseen] at done
            cases done
          · rw [same other here, done]
        have onTop : Orderly began after (.initializer instantiation :: activations) :=
          ⟨modules ▸ orderly.passed, orderly.settled.run unseen running same,
            .initializer (asks.of_modules modules) begun (orderly.ordered.of_store modules done)⟩
        exact (startInitializer_orderly onTop limit).trans goes
    | failed cause failed same =>
        exact ⟨.of_same modules same, orderly.of_same modules same⟩

theorem call_orderly {parameters : List Value}
    (orderly : Orderly began store (.call target parameters :: below))
    (begins : ∀ instantiation,
      Starts hostThread store (.call target parameters :: below) instantiation →
        began (.call target parameters :: below) instantiation) :
    (call limit hostThread store target parameters below).Orderly began store := by
  have others : Orderly began store below := orderly.pop rfl
  rcases owned : ownerOf store target with trap | instantiation
  · simp only [call, owned]
    exact ⟨.refl store, others⟩
  · rw [call_eq owned]
    refine acquire_orderly orderly (.call owned) (begins _) ?_
    intro after goes orderlyAfter active
    refine entering_orderly (orderlyAfter.pop rfl) ?_ active limit parameters
    rw [ownerOf_eq_ok_iff, goes.modules_eq]
    exact ownerOf_eq_ok_iff.mp owned

theorem proceedWith_orderly (orderly : Orderly began store (.body frame :: below))
    {moved : Except Trap (Store × Frame)}
    (remains : everything.Confines moved (frame.Remains everything store)) :
    (proceedWith store frame below moved).Orderly began store := by
  rcases moved with trap | ⟨after, next⟩
  · exact ⟨.refl store, orderly⟩
  · rcases remains with ⟨touched, stays⟩
    exact ⟨.of_same touched.modules_eq touched.status?_eq,
      (orderly.of_same touched.modules_eq touched.status?_eq).stays stays⟩

section Bodies

variable (orderly : Orderly began store (.body frame :: below))
  (begins : ∀ instantiation, Starts hostThread store (.body frame :: below) instantiation →
    began (.body frame :: below) instantiation)
include orderly begins

theorem accessField_orderly {reference : FieldRef}
    (reaches : ∀ place, frame.address store reference = .ok place → frame.Uses store place)
    {use : Store → Address → Except Trap (Store × Frame)}
    (remains : ∀ after place,
      everything.Confines (use after place) (frame.Remains everything after)) :
    (accessField limit hostThread store frame below reference use).Orderly began store := by
  rcases placed : frame.address store reference with trap | place
  · simp only [accessField, placed]
    exact ⟨.refl store, orderly⟩
  · simp only [accessField, placed]
    refine acquire_orderly orderly (.field (reaches place placed) below) (begins _) ?_
    intro after _ orderlyAfter _
    exact proceedWith_orderly orderlyAfter (remains after place)

theorem stepBody_orderly {instruction : Instruction}
    (current : frame.instruction? = some instruction) :
    (stepBody limit hostThread store frame below instruction).Orderly began store := by
  have comes := stepBody_comesTo frame.within_everything store.within_everything
    instruction (fun _ _ => trivial) limit hostThread below
  generalize stepBody limit hostThread store frame below instruction = outcome at comes ⊢
  cases comes with
  | proceeds confined => exact proceedWith_orderly orderly confined
  | accesses names confined =>
      refine accessField_orderly orderly begins (fun place placed => ?_) fun after place =>
        confined after place after.within_everything fun _ => trivial
      rcases names with rfl | ⟨rfl, _, popped⟩ | rfl
      · exact .load current placed
      · exact .store current popped placed
      · exact .loadAddress current placed
  | raises => exact ⟨.refl store, orderly⟩
  | calls _ _ stays | invokes _ stays => exact ⟨.refl store, (orderly.stays stays).push rfl⟩
  | returns => exact complete_orderly orderly.leave _

end Bodies

/-- A step keeps the order. -/
theorem step_orderly (orderly : Orderly began store activations)
    (begins : ∀ instantiation, Starts hostThread store activations instantiation →
      began activations instantiation) (limit : Nat) :
    (step limit hostThread store activations).Orderly began store := by
  suffices attempts : (attempt limit hostThread store activations).Orderly began store from
    attempts.settle
  cases activations with
  | nil => exact ⟨.refl store, orderly⟩
  | cons activation below =>
      cases activation with
      | initializer instantiation =>
          refine ⟨⟨rfl, orderly.settled.advances_publish _, ?_⟩, orderly.publish _⟩
          intro other cause failed
          rw [Store.status?_publish] at failed
          split at failed
          · rw [orderly.settled.started.first] at failed
            cases failed
          · exact failed
      | targets listed =>
          have others : Orderly began store below := orderly.pop rfl
          cases listed with
          | nil => exact complete_orderly others none
          | cons target further => exact ⟨.refl store, (others.push rfl).push rfl⟩
      | call target parameters => exact call_orderly orderly begins
      | access instantiation =>
          refine acquire_orderly orderly (.access instantiation below) (begins _) ?_
          intro after _ orderlyAfter _
          exact complete_orderly (orderlyAfter.pop rfl) none
      | body frame =>
          rcases current : frame.instruction? with _ | instruction
          · simp only [attempt, current]
            exact ⟨.refl store, orderly⟩
          · simp only [attempt, current]
            exact stepBody_orderly orderly begins current

end Rekindle.Machine
