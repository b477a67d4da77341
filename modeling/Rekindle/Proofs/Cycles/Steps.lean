import Rekindle.Proofs.Cycles.Desk
import Rekindle.Proofs.Transparency.Lookups

/-!
# Steps over a desk

Every step of the host's thread keeps what a dispatcher lists, but for a routine that registers: it
adds the targets of its argument, or traps where these cannot be added. So a run extends what is
listed by what it registers, in the order in which that is completed.
-/

namespace Rekindle.Machine

open Fallible Reload Validity

namespace Desk

variable {desk : Desk} {ledger : List Entry} {store after : Store} {limit : Nat}
  {below activations : List Activation} {frame : Frame} {target : BoundRoutine}
  {parameters : List Value} {instantiation : Instantiation} {trap : Trap} {result : Option Value}

/-! ### Ends -/

/-- A trap is received by a harmless body, or ends an initializer or the call of the host. -/
theorem unwind_stays (keeps : desk.Keeps ledger store) (raised : trap.Within desk.scope)
    (all : ∀ activation ∈ activations, desk.Calm activation) :
    desk.Stays ledger (unwind store trap activations) := by
  induction activations generalizing trap with
  | nil => exact keeps
  | cons activation below ih =>
      rcases List.forall_mem_cons.mp all with ⟨first, others⟩
      cases activation with
      | initializer instantiation =>
          exact .calm (keeps.publish fun same => absurd same first) others
      | body frame =>
          have harmless : desk.Harmless frame := first
          have confined := Frame.receive_confined harmless.within raised
          rcases received : frame.receive trap with passed | next
          · rw [received] at confined
            simp only [unwind, received]
            exact ih confined others
          · rw [received] at confined
            simp only [unwind, received]
            exact .calm keeps (List.forall_mem_cons.mpr ⟨harmless.stays confined, others⟩)
      | targets | call | access => exact ih raised others

theorem complete_stays (keeps : desk.Keeps ledger store)
    (all : ∀ activation ∈ below, desk.Calm activation)
    (known : ∀ value, result = some value → value.Within desk.scope) :
    desk.Stays ledger (complete store result below).settle := by
  unfold complete
  split
  · exact keeps
  · rename_i frame below
    rcases List.forall_mem_cons.mp all with ⟨first, others⟩
    have harmless : desk.Harmless frame := first
    have confined := Frame.resume_confined harmless.within store known
    rcases resumed : frame.resume store result with trap | next
    · rw [resumed] at confined
      exact unwind_stays keeps confined all
    · rw [resumed] at confined
      exact .calm keeps (List.forall_mem_cons.mpr ⟨harmless.stays confined, others⟩)
  · exact .calm keeps all

/-! ### Entering -/

theorem entering_stays (keeps : desk.Keeps ledger store)
    (all : ∀ activation ∈ activations, desk.Calm activation)
    (known : ∀ value ∈ parameters, value.Within desk.scope)
    (apart : target.module = desk.handle →
      (∃ occasion, target.routine = desk.dispatcher.registrar occasion) → parameters.length ≠ 1) :
    desk.Stays ledger (entering limit store target parameters activations).settle := by
  have confined : desk.scope.Confines
      (Frame.enter limit (depth activations + 1) store target parameters) desk.Harmless :=
    enter_harmless keeps known apart
  rcases entered : Frame.enter limit (depth activations + 1) store target parameters with
    trap | frame
  · rw [entered] at confined
    simp only [entering, entered]
    exact unwind_stays keeps confined all
  · rw [entered] at confined
    simp only [entering, entered]
    exact .calm keeps (List.forall_mem_cons.mpr ⟨confined, all⟩)

/-- The initializer of an instantiation starts, or there is none. -/
theorem startInitializer_stays (keeps : desk.Keeps ledger store)
    (all : ∀ activation ∈ activations, desk.Calm activation) :
    desk.Stays ledger (startInitializer limit store instantiation activations).settle := by
  by_cases isDispatcher : instantiation = desk.dispatching
  · subst isDispatcher
    have absent : initializerOf store desk.dispatching = none :=
      @Site.initializerOf_eq_none (desk.site .load) store keeps.loaded
    simp only [startInitializer, absent]
    exact .opening keeps all
  · have waiting : ∀ activation ∈ .initializer instantiation :: activations,
        desk.Calm activation := List.forall_mem_cons.mpr ⟨isDispatcher, all⟩
    rcases found : initializerOf store instantiation with _ | target
    · simp only [startInitializer, found]
      exact .calm keeps waiting
    · rw [startInitializer_eq found]
      exact entering_stays keeps waiting (List.forall_mem_nil _) fun _ _ => by simp

/-- What needs an instantiation goes on with it, or something happens first that keeps what the
dispatcher lists. -/
theorem acquire_stays {proceed : Store → Attempt} (keeps : desk.Keeps ledger store)
    (all : ∀ activation ∈ activations, desk.Calm activation)
    (goesOn : ∀ after storage, desk.Keeps ledger after →
      after.storage? instantiation = some storage →
      desk.Stays ledger (proceed after).settle) :
    desk.Stays ledger
      (acquire limit hostThread store instantiation activations proceed).settle := by
  have confined := ask_confined desk.scope store hostThread instantiation
  rcases asks : store.ask hostThread instantiation with trap | ⟨after, ticket⟩
  · rw [asks] at confined
    simp only [acquire, asks]
    exact unwind_stays keeps confined all
  · rw [asks] at confined
    rcases confined with ⟨storage, asked⟩
    have keepsAfter := keeps.ask asked
    have present := asked.storage?_eq instantiation
    rw [if_pos rfl] at present
    simp only [acquire, asks]
    cases ticket with
    | ready => exact goesOn after _ keepsAfter present
    | run => exact startInitializer_stays keepsAfter all
    | failed cause => exact unwind_stays keepsAfter trivial all
    | wait => trivial

/-! ### Calls -/

/-- A routine that registers is called with an argument. -/
theorem registrar_stays {occasion : Occasion} {argument : Value}
    (keeps : desk.Keeps ledger store) (known : argument.Within desk.scope)
    (others : ∀ activation ∈ below, desk.Calm activation) :
    desk.Stays ledger
      (call limit hostThread store (desk.site occasion).target [argument] below).settle := by
  have calm : desk.Calm (.call (desk.site occasion).target [argument]) :=
    ⟨List.forall_mem_singleton.mpr known, fun _ _ => .inr rfl⟩
  have owned : ownerOf store (desk.site occasion).target = .ok desk.dispatching :=
    @Site.ownerOf_eq (desk.site occasion) store keeps.loaded
  rw [call_eq owned]
  refine acquire_stays keeps (List.forall_mem_cons.mpr ⟨calm, others⟩) ?_
  intro after storage keepsAfter found
  by_cases tooDeep : limit < depth below + 1
  · have refused : Frame.enter limit (depth below + 1) after (desk.site occasion).target
        [argument] = .error (.callDepthExceeded limit) := by
      rw [Frame.enter, if_pos tooDeep]
    simp only [entering, refused]
    exact unwind_stays keepsAfter trivial others
  · have entered : Frame.enter limit (depth below + 1) after (desk.site occasion).target
        [argument] = .ok ((desk.site occasion).frame argument 0 .null .null .null []) :=
      Site.enter_eq keepsAfter.loaded tooDeep argument
    simp only [entering, entered]
    exact .registering keepsAfter found known others

theorem call_stays (keeps : desk.Keeps ledger store)
    (others : ∀ activation ∈ below, desk.Calm activation)
    (calm : desk.Calm (.call target parameters)) :
    desk.Stays ledger (call limit hostThread store target parameters below).settle := by
  rcases calm with ⟨known, callable⟩
  by_cases registers : (target.module = desk.handle ∧
      ∃ occasion, target.routine = desk.dispatcher.registrar occasion) ∧ parameters.length = 1
  · rcases registers with ⟨⟨here, occasion, isRegistrar⟩, single⟩
    rcases List.length_eq_one_iff.mp single with ⟨argument, rfl⟩
    have bare : target.arguments = [] := by
      simpa using callable here ⟨occasion, isRegistrar⟩
    have target_eq : target = (desk.site occasion).target := by
      rcases target with ⟨handle, routine, arguments⟩
      simp only at here isRegistrar bare
      rw [here, isRegistrar, bare]
      rfl
    rw [target_eq]
    exact registrar_stays keeps (List.forall_mem_singleton.mp known) others
  · have owns := ownerOf_confined desk.scope store target
    rcases owned : ownerOf store target with trap | instantiation
    · rw [owned] at owns
      simp only [call, owned]
      exact unwind_stays keeps owns others
    · have waits : desk.Calm (.call target parameters) := ⟨known, callable⟩
      rw [call_eq owned]
      refine acquire_stays keeps (List.forall_mem_cons.mpr ⟨waits, others⟩) ?_
      intro after _ keepsAfter _
      exact entering_stays keepsAfter others known
        fun here isRegistrar single => registers ⟨⟨here, isRegistrar⟩, single⟩

/-! ### Bodies -/

section Bodies

variable {instruction : Instruction}

theorem Harmless.callable (harmless : desk.Harmless frame) {reference : RoutineRef}
    (current : frame.instruction? = some (.call reference)) :
    desk.Callable (frame.bound reference) parameters := by
  rintro here ⟨occasion, isRegistrar⟩
  right
  have listed : Instruction.call reference ∈ frame.body.instructions.toList :=
    Array.mem_toList_iff.mpr (Array.mem_of_getElem? current)
  rcases harmless.fits here with ⟨arity, routine, fits⟩
  rcases (fits.instructions _ listed).operand with ⟨named, found, _, _, binding⟩
  rcases (desk.tended.registers occasion).routine_declared with ⟨_, _, declared⟩
  rw [show reference.routine = desk.dispatcher.registrar occasion from isRegistrar,
    declared] at found
  cases found
  rcases length_close binding frame.arguments with ⟨type, typeDeclared, arity_eq⟩
  rw [desk.tended.plain type typeDeclared] at arity_eq
  exact List.eq_nil_of_length_eq_zero arity_eq.symm

/-- A harmless frame does not reach the dispatcher but to read it. -/
theorem Harmless.placed {address : Address} (harmless : desk.Harmless frame)
    (keeps : desk.Keeps ledger store) (current : frame.instruction? = some instruction)
    {reference : FieldRef}
    (writes : instruction = .storeField reference ∨ instruction = .loadFieldAddress reference)
    (located : frame.address store reference = .ok address) : desk.scope.places address := by
  have confined := address_confined desk.scope frame store reference
  rw [located] at confined
  rcases confined with ⟨module, field, loaded, found, instantiation_eq⟩
  intro isDispatcher
  rw [isDispatcher] at instantiation_eq
  have here : frame.module = desk.handle := (congrArg (·.module) instantiation_eq).symm
  obtain rfl := keeps.module_eq loaded here
  have sparing := harmless.sparing here instruction
    (Array.mem_toList_iff.mpr (Array.mem_of_getElem? current))
  have apart : field.owner ≠ desk.dispatcher.type := by
    rcases writes with rfl | rfl <;> exact sparing field found
  exact apart (congrArg (·.type) instantiation_eq).symm

variable (keeps : desk.Keeps ledger store) (harmless : desk.Harmless frame)
  (others : ∀ activation ∈ below, desk.Calm activation)
include keeps harmless others

theorem proceedWith_stays {moved : Except Trap (Store × Frame)}
    (confined : desk.scope.Confines moved (frame.Remains desk.scope store)) :
    desk.Stays ledger (proceedWith store frame below moved).settle := by
  rcases moved with trap | ⟨after, next⟩
  · exact unwind_stays keeps confined (List.forall_mem_cons.mpr ⟨harmless, others⟩)
  · exact .calm (keeps.touched confined.1)
      (List.forall_mem_cons.mpr ⟨harmless.stays confined.2, others⟩)

theorem accessField_stays {reference : FieldRef}
    {use : Store → Address → Except Trap (Store × Frame)}
    (confined : ∀ after place, desk.Keeps ledger after →
      frame.address store reference = .ok place →
      desk.scope.Confines (use after place) (frame.Remains desk.scope after)) :
    desk.Stays ledger (accessField limit hostThread store frame below reference use).settle := by
  have calm : ∀ activation ∈ .body frame :: below, desk.Calm activation :=
    List.forall_mem_cons.mpr ⟨harmless, others⟩
  have reached := address_confined desk.scope frame store reference
  rcases located : frame.address store reference with trap | place
  · rw [located] at reached
    simp only [accessField, located]
    exact unwind_stays keeps reached calm
  · simp only [accessField, located]
    refine acquire_stays keeps calm ?_
    intro after _ keepsAfter _
    exact proceedWith_stays keepsAfter harmless others (confined after place keepsAfter located)

theorem stepBody_stays (current : frame.instruction? = some instruction) :
    desk.Stays ledger (stepBody limit hostThread store frame below instruction).settle := by
  have calm : ∀ activation ∈ .body frame :: below, desk.Calm activation :=
    List.forall_mem_cons.mpr ⟨harmless, others⟩
  have comes := stepBody_comesTo harmless.within keeps.within instruction (fun _ _ => trivial)
    limit hostThread below
  generalize stepBody limit hostThread store frame below instruction = outcome at comes ⊢
  cases comes with
  | proceeds confined => exact proceedWith_stays keeps harmless others confined
  | accesses names confined =>
      refine accessField_stays keeps harmless others ?_
      intro after place keepsAfter located
      refine confined after place keepsAfter.within fun writes => ?_
      have either := (names.resolve_left writes).imp_left And.left
      exact harmless.placed keeps current either located
  | raises within => exact unwind_stays keeps within calm
  | @calls reference parameters _ names within stays =>
      have called : desk.Calm (.call (frame.bound reference) parameters) :=
        ⟨within, harmless.callable (names ▸ current)⟩
      exact .calm keeps (List.forall_mem_cons.mpr
        ⟨called, List.forall_mem_cons.mpr ⟨harmless.stays stays, others⟩⟩)
  | @invokes targets _ _ stays =>
      have calls : desk.Calm (.targets targets) := trivial
      exact .calm keeps (List.forall_mem_cons.mpr
        ⟨calls, List.forall_mem_cons.mpr ⟨harmless.stays stays, others⟩⟩)
  | returns within => exact complete_stays keeps others within

end Bodies

/-! ### Steps -/

/-- A step from a calm stack completes no registration and keeps what the dispatcher lists. -/
theorem Keeps.step_stays (keeps : desk.Keeps ledger store)
    (all : ∀ activation ∈ activations, desk.Calm activation) (limit : Nat) :
    desk.completes activations = [] ∧
      desk.Stays ledger (step limit hostThread store activations) := by
  cases activations with
  | nil => exact ⟨rfl, keeps⟩
  | cons activation below =>
      rcases List.forall_mem_cons.mp all with ⟨first, others⟩
      cases activation with
      | initializer instantiation =>
          exact ⟨rfl, .calm (keeps.publish fun _ => rfl) others⟩
      | targets targets =>
          refine ⟨rfl, ?_⟩
          cases targets with
          | nil => exact complete_stays keeps others (by simp)
          | cons target targets =>
              have called : desk.Calm (.call target []) :=
                ⟨List.forall_mem_nil _, fun _ _ => .inl rfl⟩
              have waits : desk.Calm (.targets targets) := trivial
              exact .calm keeps (List.forall_mem_cons.mpr
                ⟨called, List.forall_mem_cons.mpr ⟨waits, others⟩⟩)
      | call target parameters => exact ⟨rfl, call_stays keeps others first⟩
      | access instantiation =>
          refine ⟨rfl, acquire_stays keeps all ?_⟩
          intro after _ keepsAfter _
          exact complete_stays keepsAfter others (by simp)
      | body frame =>
          have harmless : desk.Harmless frame := first
          refine ⟨completed_of_apart below harmless.apart, ?_⟩
          rcases current : frame.instruction? with _ | instruction
          · simp only [step, attempt, current]
            exact unwind_stays keeps trivial all
          · simp only [step, attempt, current]
            exact stepBody_stays keeps harmless others current

/-- A routine that registers traps where it cannot add its argument. -/
theorem refuses {site : Site} {argument value : Value} (known : value.IsCombinable)
    (other : ¬argument.IsCombinable) (limit : Nat) (thread : ThreadId) (store : Store)
    (a b c : Value) (below : List Activation) :
    step limit thread store (.body (site.frame argument 6 a b c [argument, value]) :: below) =
      unwind store (.mismatch "combine" argument) below := by
  have attempted : attempt limit thread store
      (.body (site.frame argument 6 a b c [argument, value]) :: below) =
      .raised store (.mismatch "combine" argument)
        (.body (site.frame argument 6 a b c [argument, value]) :: below) := by
    cases value with
    | null | callback =>
        cases argument with
        | null | callback => exact absurd trivial other
        | _ => rfl
    | _ => cases known
  rw [step, attempted]
  rfl

/-- A routine that registers does so, or traps. -/
theorem Keeps.registering_advances {occasion : Occasion} {argument : Value} {storage : Storage}
    (keeps : desk.Keeps ledger store) (found : store.storage? desk.dispatching = some storage)
    (known : argument.Within desk.scope) (others : ∀ activation ∈ below, desk.Calm activation)
    (limit : Nat) :
    ∃ middle next, Traces desk.completes limit hostThread store
        (.body ((desk.site occasion).frame argument 0 .null .null .null []) :: below) []
        middle next ∧
      desk.Stays (ledger ++ desk.completes next) (step limit hostThread middle next) := by
  have shows := (keeps.records occasion).present storage found
  rcases shows.held with ⟨value, held, combinable, _⟩
  have holds : (desk.site occasion).Holds hostThread store storage value :=
    ⟨keeps.loaded, found, shows.active, held⟩
  by_cases adds : argument.IsCombinable
  · rcases holds.registers combinable desk.completes_sees adds limit below with
      ⟨after, combined, a, b, c, traces, beside, stays, targets_eq, foundAfter⟩
    have registered : (desk.site occasion).Registered store argument after :=
      ⟨beside, storage, value, combined, .present found, held, stays, targets_eq, foundAfter⟩
    have completes : desk.completes
        (.body ((desk.site occasion).frame argument 16 a b c []) :: below) =
        argument.targets.map fun target => (occasion, target) :=
      @completed_registrar desk.dispatcher (desk.site occasion) occasion
        (Dispatcher.occasion?_registrar desk.tended.registrars_apart occasion) argument a b c below
    refine ⟨after, _, traces, ?_⟩
    rw [completes]
    exact complete_stays (keeps.registered registered known) others (by simp)
  · rcases Site.reads (desk.site occasion) limit hostThread argument below desk.completes_sees
      holds .null .null .null with ⟨read, rests, toRead⟩
    have toTaken := Site.takes (desk.site occasion) limit hostThread argument below
      desk.completes_sees read value .null .null .null
    have readKeeps : desk.Keeps ledger read := by
      refine keeps.of_same (rests.modules_eq ▸ keeps.loaded) (rests.storages _) ?_
      intro place other isHeld
      rw [Store.slot?, rests.storages] at isHeld
      exact keeps.within place other isHeld
    have silent : desk.completes (.body ((desk.site occasion).frame argument 6 value value .null
        [argument, value]) :: below) = [] := desk.completes_sees.body _ _ rfl
    refine ⟨read, _, toRead.trans toTaken, ?_⟩
    rw [silent, List.append_nil, refuses combinable adds]
    exact unwind_stays readKeeps trivial others

/-- From every state, a thread comes to a step that keeps what the dispatcher lists, extended by what
is registered with that step. -/
theorem State.advances (state : desk.State ledger store activations) (limit : Nat) :
    ∃ middle next, Traces desk.completes limit hostThread store activations [] middle next ∧
      desk.Stays (ledger ++ desk.completes next) (step limit hostThread middle next) := by
  cases state with
  | calm keeps all =>
      rcases keeps.step_stays all limit with ⟨silent, stays⟩
      refine ⟨store, activations, .refl, ?_⟩
      rwa [silent, List.append_nil]
  | opening keeps others =>
      refine ⟨store, _, .refl, ?_⟩
      rw [show desk.completes _ = [] from rfl, List.append_nil]
      exact .calm (keeps.publish fun _ => rfl) others
  | registering keeps found known others =>
      exact keeps.registering_advances found known others limit

/-- A run of the host's thread extends what the dispatcher lists by what it registers. -/
theorem State.run_keeps {outcome : Except Trap (Option Value)}
    (state : desk.State ledger store activations) {steps : Nat}
    (runs : run limit hostThread steps store activations = some (after, outcome)) :
    desk.Keeps (ledger ++ seen desk.completes limit hostThread steps store activations) after := by
  -- A routine that registers takes many steps, which are taken at once.
  induction steps using Nat.strong_induction_on generalizing ledger store activations with
  | _ steps ih =>
      rcases state.advances limit with ⟨middle, next, traces, stays⟩
      rcases traces.run_last runs with ⟨fewer, le, runsLast, same⟩
      rw [same, List.nil_append]
      cases fewer with
      | zero => cases runsLast
      | succ fewer =>
          simp only [run] at runsLast
          simp only [seen]
          rcases stepped : step limit hostThread middle next with
            ⟨later, further⟩ | ⟨later, further⟩ | ⟨last, ended⟩
          · rw [stepped] at runsLast stays
            rw [← List.append_assoc]
            exact ih fewer le stays runsLast
          · rw [stepped] at runsLast
            cases runsLast
          · rw [stepped] at runsLast stays
            cases runsLast
            rw [List.append_nil]
            exact stays

end Desk

end Rekindle.Machine
