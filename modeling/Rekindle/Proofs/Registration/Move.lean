import Rekindle.Proofs.Registration.Register

/-!
# The moves of a registration

Every step of a thread that registers a callback is one of the moves. Between the instructions that
touch the store the routine only shuffles its locals and operands; where it touches the store, it
first asks for the dispatcher type, which may have to be initialized or waited for.
-/

namespace Rekindle.Machine.Site

open Reload Fallible

variable {site : Site} {limit : Nat} {thread : ThreadId} {argument : Value}
  {objects : Nat → List BoundRoutine} {store after : Store}

theorem Later.refl (settled : site.Settled objects store) :
    site.Later objects store objects store :=
  ⟨settled, fun _ issued => issued, id, id⟩

/-! ### Asking for the dispatcher -/

theorem slotOf_eq (site : Site) :
    Store.slotOf site.module site.field = .ok site.slot.slot := by
  rcases site.registers.field_declared with ⟨name, declared⟩
  rcases site.registers.field_listed with ⟨type, listed, _⟩
  simp [slot, Store.slotOf, declared, listed]

theorem address_eq (loaded : store.modules[site.handle.position]? = some site.module)
    {position : Nat} {current observed combined : Value} {operands : List Value} :
    (site.frame argument position current observed combined operands).address store
      site.reference = .ok site.slot := by
  rcases site.registers.field_declared with ⟨name, declared⟩
  have found : store.module site.handle = .ok site.module := by
    simp [Store.module, loaded]
  simp only [Frame.address, frame, reference, found, ok_bind, declared, site.slotOf_eq,
    pure_eq_ok]
  rfl

theorem fresh_slot {type : TypeDecl} (declared : site.module.type? site.owner = some type) :
    (Store.freshStorage site.module type []).slots[site.slot.slot]? = some .null := by
  rcases site.registers.field_declared with ⟨name, fieldDeclared⟩
  rcases site.registers.field_listed with ⟨other, typeDeclared, listed⟩
  rw [declared] at typeDeclared
  cases typeDeclared
  rcases Store.exists_lastPosition listed with ⟨position, found⟩
  have place : site.slot.slot = position := by
    simp [slot, Store.slotOf, fieldDeclared, declared, found]
  rw [place]
  simp [Store.freshStorage, Store.getElem?_of_lastPosition found, Store.freshSlot, fieldDeclared,
    Dispatcher.slotDecl, FieldDecl.static, FieldDecl.hasStorage, ValueType.substitute,
    Value.default]

/-- Asking for the dispatcher type keeps what the slot holds, which is there afterwards. -/
theorem ask_slot (settled : site.Settled objects store) (thread : ThreadId) :
    ∃ after ticket, store.ask thread site.slot.instantiation = .ok (after, ticket) ∧
      site.Later objects store objects after ∧ after.held site.slot = store.held site.slot ∧
      (after.slot? site.slot).isSome ∧
      (∀ cause, ticket = .failed cause → store.HasFailed site.slot.instantiation) := by
  rcases site.registers.field_listed with ⟨type, declared, _⟩
  have loaded : store.modules[site.slot.instantiation.module.position]? = some site.module :=
    settled.loaded
  rcases Store.ask_succeeds thread loaded declared with
    ⟨after, ticket, succeeds⟩
  rcases Store.ask_ok succeeds with ⟨storage, asked⟩
  have slotAfter : after.slot? site.slot = storage.slots[site.slot.slot]? := by
    rw [asked.slot?_eq, if_pos rfl]
  have kept : after.slot? site.slot = some (store.held site.slot) := by
    rw [slotAfter]
    rcases asked.storage_eq with present | ⟨missing, module, found, moduleLoaded, typeFound, fresh⟩
    · have isPresent := settled.present (by simp [present])
      have slotBefore : store.slot? site.slot = storage.slots[site.slot.slot]? := by
        simp [Store.slot?, present]
      rw [slotBefore] at isPresent
      rcases Option.isSome_iff_exists.mp isPresent with ⟨value, holds⟩
      simp [Store.held, slotBefore, holds]
    · rw [loaded] at moduleLoaded
      cases moduleLoaded
      have holds : storage.slots[site.slot.slot]? = some .null := by
        rw [fresh]
        exact fresh_slot typeFound
      simp [holds, Store.held, Store.slot?, missing]
  have heldAfter : after.held site.slot = store.held site.slot := by
    simp [Store.held, kept]
  refine ⟨after, ticket, succeeds, ⟨⟨?_, ?_, ?_⟩, ?_, ?_, asked.hasFailed⟩, heldAfter,
    by simp [kept], ?_⟩
  · rw [asked.modules_eq]
    exact settled.loaded
  · simp [kept]
  · rw [heldAfter, asked.nextCallback_eq]
    exact settled.issued
  · intro value issued
    rwa [asked.nextCallback_eq]
  · simp [kept]
  · rintro cause rfl
    exact asked.hasFailed_of_ticket

theorem initializerOf_eq_none (loaded : store.modules[site.handle.position]? = some site.module) :
    initializerOf store site.slot.instantiation = none := by
  have found : store.modules[site.slot.instantiation.module.position]? = some site.module := loaded
  have noInitializer : site.module.initializer site.slot.instantiation.type = .ok none :=
    site.registers.not_initialized
  simp [initializerOf, found, noInitializer]

/-- What comes of something that needs the dispatcher type: it is done, or the type is initialized
first, or waited for, or the initialization has failed before. -/
theorem acquire_slot (settled : site.Settled objects store) (limit : Nat) (thread : ThreadId)
    (activations : List Activation) :
    ∃ after, site.Later objects store objects after ∧
      after.held site.slot = store.held site.slot ∧ (after.slot? site.slot).isSome ∧
      ((∀ proceed, acquire limit thread store site.slot.instantiation activations proceed =
          proceed after) ∨
        (∀ proceed, acquire limit thread store site.slot.instantiation activations proceed =
          .running after (.initializer site.slot.instantiation :: activations)) ∨
        (∀ proceed, acquire limit thread store site.slot.instantiation activations proceed =
          .blocked after activations) ∨
        (store.HasFailed site.slot.instantiation ∧ ∃ trap, ∀ proceed,
          acquire limit thread store site.slot.instantiation activations proceed =
            .raised after (.typeInitializationFailed (after.typeName site.slot.instantiation) trap)
              activations)) := by
  rcases ask_slot settled thread with ⟨after, ticket, asked, later, kept, present, failing⟩
  refine ⟨after, later, kept, present, ?_⟩
  cases ticket with
  | ready =>
      left
      intro proceed
      simp [acquire, asked]
  | run =>
      right; left
      intro proceed
      simp [acquire, asked, startInitializer, initializerOf_eq_none later.settled.loaded]
  | wait =>
      right; right; left
      intro proceed
      simp [acquire, asked]
  | failed cause =>
      right; right; right
      refine ⟨failing cause rfl, cause, ?_⟩
      intro proceed
      simp [acquire, asked]

/-! ### Phases in later stores -/

theorem Phase.later {objectsAfter : Nat → List BoundRoutine} {won : Bool} {seen : Option Value}
    {doing : Activation} (phase : site.Phase argument objects store won seen doing)
    (later : site.Later objects store objectsAfter after) :
    site.Phase argument objectsAfter after won seen doing := by
  cases phase with
  | calling => exact .calling
  | reading => exact .reading
  | keeping known => exact .keeping (later.issued _ known)
  | starting known => exact .starting (later.issued _ known)
  | taking known => exact .taking (later.issued _ known)
  | taken known => exact .taken (later.issued _ known)
  | loading known => exact .loading (later.issued _ known)
  | combining known => exact .combining (later.issued _ known)
  | combined known made adds =>
      exact .combined (later.issued _ known) (later.issued _ made) adds
  | addressing known made adds =>
      exact .addressing (later.issued _ known) (later.issued _ made) adds
  | addressed known made adds present =>
      exact .addressed (later.issued _ known) (later.issued _ made) adds (later.present present)
  | offering known made adds present =>
      exact .offering (later.issued _ known) (later.issued _ made) adds (later.present present)
  | exchanging known made adds present =>
      exact .exchanging (later.issued _ known) (later.issued _ made) adds (later.present present)
  | exchanged known decided => exact .exchanged (later.issued _ known) decided
  | noted known decided => exact .noted (later.issued _ known) decided
  | comparing known decided => exact .comparing (later.issued _ known) decided
  | deciding known decided => exact .deciding (later.issued _ known) decided
  | returning => exact .returning

theorem Underway.later {objectsAfter : Nat → List BoundRoutine} {won : Bool}
    {seen : Option Value} {activations : List Activation}
    (underway : site.Underway argument objects store won seen activations)
    (later : site.Later objects store objectsAfter after) :
    site.Underway argument objectsAfter after won seen activations := by
  rcases underway with ⟨doing, phase, stacked⟩
  exact ⟨doing, phase.later later, stacked⟩

theorem Phase.underway {won : Bool} {seen : Option Value} {doing : Activation}
    (phase : site.Phase argument objects store won seen doing) :
    site.Underway argument objects store won seen [doing] :=
  ⟨doing, phase, .inl rfl⟩

theorem Phase.underway_initializer {won : Bool} {seen : Option Value} {doing : Activation}
    (phase : site.Phase argument objects store won seen doing) :
    site.Underway argument objects store won seen
      [.initializer site.slot.instantiation, doing] :=
  ⟨doing, phase, .inr rfl⟩

/-! ### Steps that leave the store alone -/

/-- A step that neither changes the store nor touches the slot is quiet. -/
theorem Move.of_running {won : Bool} {seen : Option Value} {activations : List Activation}
    {next : Activation} (settled : site.Settled objects store)
    (untouched : contact limit thread site.slot store activations = none)
    (steps : step limit thread store activations = .running store [next])
    (phase : site.Phase argument objects store won seen next) :
    site.Move limit argument objects store won seen
      (contact limit thread site.slot store activations)
      (step limit thread store activations) := by
  rw [untouched, steps]
  exact .quiet (.refl settled) rfl phase.underway (.inl rfl)

/-! ### Entering the routine -/

theorem ownerOf_eq (loaded : store.modules[site.handle.position]? = some site.module) :
    ownerOf store site.target = .ok site.slot.instantiation := by
  rcases site.registers.routine_declared with ⟨markers, name, declared⟩
  have found : store.module site.handle = .ok site.module := by
    simp [Store.module, loaded]
  simp [ownerOf, target, found, declared, slot]

theorem enter_eq (loaded : store.modules[site.handle.position]? = some site.module)
    {depth : Nat} (enough : ¬limit < depth) (argument : Value) :
    Frame.enter limit depth store site.target [argument] =
      .ok (site.frame argument 0 .null .null .null []) := by
  rcases site.registers.routine_declared with ⟨markers, name, declared⟩
  have found : store.module site.handle = .ok site.module := by
    simp [Store.module, loaded]
  simp only [Frame.enter, enough, if_false, target, found, ok_bind, declared]
  rfl

theorem move_calling (settled : site.Settled objects store) :
    site.Move limit argument objects store false none
      (contact limit thread site.slot store [.call site.target [argument]])
      (step limit thread store [.call site.target [argument]]) := by
  have untouched : contact limit thread site.slot store [.call site.target [argument]] = none := rfl
  rw [untouched]
  rcases acquire_slot settled limit thread [.call site.target [argument]] with
    ⟨after, later, kept, present, outcome⟩
  simp only [step, attempt, call, ownerOf_eq settled.loaded]
  rcases outcome with ready | run | wait | ⟨failed, cause, gone⟩
  · rw [ready]
    by_cases positive : 0 < limit
    · have entered : Frame.enter limit (depth [] + 1) after site.target [argument] =
          .ok (site.frame argument 0 .null .null .null []) := by
        apply enter_eq later.settled.loaded
        simp only [depth, List.countP_nil]
        omega
      rw [entered]
      exact .quiet later kept Phase.reading.underway (.inl rfl)
    · have exceeded : Frame.enter limit (depth [] + 1) after site.target [argument] =
          .error (.callDepthExceeded limit) := by
        have tooDeep : limit < depth [] + 1 := by
          simp only [depth, List.countP_nil]
          omega
        simp [Frame.enter, tooDeep]
      rw [exceeded]
      exact .trapped later kept rfl (.inl (by omega))
  · rw [run]
    exact .quiet later kept Phase.calling.underway_initializer (.inl rfl)
  · rw [wait]
    exact .quiet later kept Phase.calling.underway (.inr rfl)
  · rw [gone]
    exact .trapped later kept rfl (.inr failed)

/-! ### Reading the slot and taking its address -/

theorem move_reading (settled : site.Settled objects store) (a b d : Value) :
    site.Move limit argument objects store false none
      (contact limit thread site.slot store [.body (site.frame argument 0 a b d [])])
      (step limit thread store [.body (site.frame argument 0 a b d [])]) := by
  have place : (site.frame argument 0 a b d []).address store site.reference = .ok site.slot :=
    address_eq settled.loaded
  have reads : (site.frame argument 0 a b d []).instruction? =
    some (.loadField site.reference) := rfl
  have attempted : attempt limit thread store [.body (site.frame argument 0 a b d [])] =
      acquire limit thread store site.slot.instantiation
        [.body (site.frame argument 0 a b d [])] fun store =>
          proceedWith store (site.frame argument 0 a b d []) [] (do
            let value ← store.read site.slot
            return (store, ← (site.frame argument 0 a b d []).yield value)) := by
    have unfolded : attempt limit thread store [.body (site.frame argument 0 a b d [])] =
      accessField limit thread store (site.frame argument 0 a b d []) [] site.reference
        fun store address => do
          let value ← store.read address
          return (store, ← (site.frame argument 0 a b d []).yield value) := rfl
    rw [unfolded, accessField, place]
  rcases acquire_slot settled limit thread [.body (site.frame argument 0 a b d [])] with
    ⟨after, later, kept, present, outcome⟩
  rcases outcome with ready | run | wait | ⟨failed, cause, gone⟩
  · have reading : after.read site.slot = .ok (store.held site.slot) := by
      rcases Option.isSome_iff_exists.mp present with ⟨value, holds⟩
      rw [← kept]
      simp [Store.read, holds, Store.held]
    have read : attempt limit thread store [.body (site.frame argument 0 a b d [])] =
        .running after [.body (site.frame argument 1 a b d [store.held site.slot])] := by
      rw [attempted, ready, reading]
      rfl
    have touched : contact limit thread site.slot store
        [.body (site.frame argument 0 a b d [])] = some .observed := by
      simp only [contact, reads, read, place]
      rfl
    rw [touched, step, read]
    have known := later.issued _ settled.issued
    exact .observed later kept rfl (Phase.keeping known).underway
  · rw [run] at attempted
    have untouched : contact limit thread site.slot store
        [.body (site.frame argument 0 a b d [])] = none := by
      simp only [contact, reads, attempted]
    rw [untouched, step, attempted]
    exact .quiet later kept Phase.reading.underway_initializer (.inl rfl)
  · rw [wait] at attempted
    have untouched : contact limit thread site.slot store
        [.body (site.frame argument 0 a b d [])] = none := by
      simp only [contact, reads, attempted]
    rw [untouched, step, attempted]
    exact .quiet later kept Phase.reading.underway (.inr rfl)
  · rw [gone] at attempted
    have untouched : contact limit thread site.slot store
        [.body (site.frame argument 0 a b d [])] = none := by
      simp only [contact, reads, attempted]
    rw [untouched, step, attempted]
    exact .trapped later kept rfl (.inr failed)

theorem move_addressing (settled : site.Settled objects store) {a v d : Value}
    (known : v.Issued objects store.nextCallback) (made : d.Issued objects store.nextCallback)
    (adds : d.targets = v.targets ++ argument.targets) :
    site.Move limit argument objects store false (some v)
      (contact limit thread site.slot store [.body (site.frame argument 8 a v d [])])
      (step limit thread store [.body (site.frame argument 8 a v d [])]) := by
  have place : (site.frame argument 8 a v d []).address store site.reference = .ok site.slot :=
    address_eq settled.loaded
  have attempted : attempt limit thread store [.body (site.frame argument 8 a v d [])] =
      acquire limit thread store site.slot.instantiation
        [.body (site.frame argument 8 a v d [])] fun store =>
          proceedWith store (site.frame argument 8 a v d []) [] (do
            return (store, ← (site.frame argument 8 a v d []).yield (.address site.slot))) := by
    have unfolded : attempt limit thread store [.body (site.frame argument 8 a v d [])] =
      accessField limit thread store (site.frame argument 8 a v d []) [] site.reference
        fun store address => do
          return (store, ← (site.frame argument 8 a v d []).yield (.address address)) := rfl
    rw [unfolded, accessField, place]
  have untouched : contact limit thread site.slot store
    [.body (site.frame argument 8 a v d [])] = none := rfl
  rw [untouched, step, attempted]
  rcases acquire_slot settled limit thread [.body (site.frame argument 8 a v d [])] with
    ⟨after, later, kept, present, outcome⟩
  have phase : site.Phase argument objects after false (some v)
    (.body (site.frame argument 8 a v d [])) := (Phase.addressing known made adds).later later
  rcases outcome with ready | run | wait | ⟨failed, cause, gone⟩
  · rw [ready]
    have addressed : site.Phase argument objects after false (some v)
        (.body (site.frame argument 9 a v d [.address site.slot])) :=
      .addressed (later.issued _ known) (later.issued _ made) adds present
    exact .quiet later kept addressed.underway (.inl rfl)
  · rw [run]
    exact .quiet later kept phase.underway_initializer (.inl rfl)
  · rw [wait]
    exact .quiet later kept phase.underway (.inr rfl)
  · rw [gone]
    exact .trapped later kept rfl (.inr failed)

/-! ### Combining and exchanging -/

theorem move_combining (settled : site.Settled objects store)
    (argumentIssued : argument.Issued objects store.nextCallback) {a v d : Value}
    (known : v.Issued objects store.nextCallback) :
    site.Move limit argument objects store false (some v)
      (contact limit thread site.slot store
        [.body (site.frame argument 6 a v d [argument, v])])
      (step limit thread store [.body (site.frame argument 6 a v d [argument, v])]) := by
  rcases Value.combine_issued known argumentIssued with ⟨combined, combines, issued⟩
  have executes : (site.frame argument 6 a v d [argument, v]).combineCallbacks store =
      .ok ({ store with nextCallback := store.nextCallback + 1 },
        site.frame argument 7 a v d [combined]) := by
    have popped : (site.frame argument 6 a v d [argument, v]).popTwo =
      .ok (v, argument, site.frame argument 6 a v d []) := rfl
    simp only [Frame.combineCallbacks, popped, ok_bind, Store.combine, combines, Option.map_some]
    rfl
  have steps : step limit thread store [.body (site.frame argument 6 a v d [argument, v])] =
      .running { store with nextCallback := store.nextCallback + 1 }
        [.body (site.frame argument 7 a v d [combined])] := by
    have attempted : attempt limit thread store
          [.body (site.frame argument 6 a v d [argument, v])] =
        proceedWith store (site.frame argument 6 a v d [argument, v]) []
          ((site.frame argument 6 a v d [argument, v]).combineCallbacks store) := rfl
    rw [step, attempted, executes]
    rfl
  have untouched : contact limit thread site.slot store
    [.body (site.frame argument 6 a v d [argument, v])] = none := rfl
  rw [untouched, steps]
  have later : site.Later objects store
      (Function.update objects store.nextCallback (v.targets ++ argument.targets))
      { store with nextCallback := store.nextCallback + 1 } :=
    ⟨⟨settled.loaded, settled.present, settled.issued.update _⟩,
      fun value issued => issued.update _, id, id⟩
  have phase : site.Phase argument
      (Function.update objects store.nextCallback (v.targets ++ argument.targets))
      { store with nextCallback := store.nextCallback + 1 } false (some v)
      (.body (site.frame argument 7 a v d [combined])) :=
    .combined (later.issued _ known) issued (Value.targets_combine combines)
  exact .quiet later rfl phase.underway (.inl rfl)

theorem move_exchanging (settled : site.Settled objects store) {a v d : Value}
    (known : v.Issued objects store.nextCallback) (made : d.Issued objects store.nextCallback)
    (adds : d.targets = v.targets ++ argument.targets)
    (present : (store.slot? site.slot).isSome) :
    site.Move limit argument objects store false (some v)
      (contact limit thread site.slot store
        [.body (site.frame argument 11 a v d [v, d, .address site.slot])])
      (step limit thread store
        [.body (site.frame argument 11 a v d [v, d, .address site.slot])]) := by
  rcases Option.isSome_iff_exists.mp present with ⟨held, holds⟩
  have heldEq : store.held site.slot = held := by simp [Store.held, holds]
  have heldIssued : held.Issued objects store.nextCallback := heldEq ▸ settled.issued
  have attempted : attempt limit thread store
        [.body (site.frame argument 11 a v d [v, d, .address site.slot])] =
      .running (if held.same v then store.setSlot site.slot d else store)
        [.body (site.frame argument 12 a v d [held])] := by
    have unfolded : attempt limit thread store
          [.body (site.frame argument 11 a v d [v, d, .address site.slot])] =
        proceedWith store (site.frame argument 11 a v d [v, d, .address site.slot]) []
          ((site.frame argument 11 a v d [v, d, .address site.slot]).compareExchange store) := rfl
    have popped : (site.frame argument 11 a v d [v, d, .address site.slot]).popTwo =
      .ok (d, v, site.frame argument 11 a v d [.address site.slot]) := rfl
    have placed : (site.frame argument 11 a v d [.address site.slot]).popAddress "cmpxchg" =
      .ok (site.slot, site.frame argument 11 a v d []) := rfl
    simp only [unfolded, Frame.compareExchange, popped, ok_bind, placed, holds]
    rfl
  have touched : contact limit thread site.slot store
      [.body (site.frame argument 11 a v d [v, d, .address site.slot])] =
        some (.exchanged (held.same v)) := by
    have exchanges : (site.frame argument 11 a v d [v, d, .address site.slot]).instruction? =
      some .compareExchange := rfl
    have offered : (site.frame argument 11 a v d [v, d, .address site.slot]).operands.values =
      [v, d, .address site.slot] := rfl
    simp [contact, exchanges, attempted, offered, holds]
  rw [touched, step, attempted]
  rcases matched : held.same v with _ | _
  · refine .refused (.refl settled) rfl rfl rfl (heldEq ▸ matched) ?_
    rw [heldEq]
    exact (Phase.exchanged heldIssued matched).underway
  · rw [if_pos rfl]
    have slotAfter : (store.setSlot site.slot d).slot? site.slot = some d := by
      rw [Store.slot?_setSlot, if_pos rfl, holds, Option.map_some]
    have heldAfter : (store.setSlot site.slot d).held site.slot = d := by
      simp [Store.held, slotAfter]
    have later : site.Later objects store objects (store.setSlot site.slot d) := by
      refine ⟨⟨settled.loaded, ?_, ?_⟩, ?_, ?_, ?_⟩
      · intro _
        simp [slotAfter]
      · rw [heldAfter]
        exact made
      · intro value issued
        exact issued
      · intro _
        simp [slotAfter]
      · exact Store.hasFailed_of_setSlot
    refine .exchanged later rfl ?_ ?_
    · rw [heldAfter, heldEq, adds, Value.targets_eq_of_same heldIssued known matched]
    · rw [heldEq]
      exact (Phase.exchanged (later.issued _ heldIssued) matched).underway

/-! ### Every step -/

/-- Every step of a thread that registers a callback is a move. -/
theorem Underway.move {won : Bool} {seen : Option Value} {activations : List Activation}
    (underway : site.Underway argument objects store won seen activations) (limit : Nat)
    (thread : ThreadId) (settled : site.Settled objects store)
    (argumentIssued : argument.Issued objects store.nextCallback) :
    site.Move limit argument objects store won seen
      (contact limit thread site.slot store activations)
      (step limit thread store activations) := by
  rcases underway with ⟨doing, phase, rfl | rfl⟩
  · cases phase with
    | calling => exact move_calling settled
    | reading => exact move_reading settled _ _ _
    | keeping known => exact .of_running settled rfl rfl (.starting known)
    | starting known => exact .of_running settled rfl rfl (.taking known)
    | taking known => exact .of_running settled rfl rfl (.taken known)
    | taken known => exact .of_running settled rfl rfl (.loading known)
    | loading known => exact .of_running settled rfl rfl (.combining known)
    | combining known => exact move_combining settled argumentIssued known
    | combined known made adds => exact .of_running settled rfl rfl (.addressing known made adds)
    | addressing known made adds => exact move_addressing settled known made adds
    | addressed known made adds present =>
        exact .of_running settled rfl rfl (.offering known made adds present)
    | offering known made adds present =>
        exact .of_running settled rfl rfl (.exchanging known made adds present)
    | exchanging known made adds present => exact move_exchanging settled known made adds present
    | exchanged known decided => exact .of_running settled rfl rfl (.noted known decided)
    | noted known decided => exact .of_running settled rfl rfl (.comparing known decided)
    | comparing known decided => exact .of_running settled rfl rfl (.deciding known decided)
    | @deciding won v held d known decided =>
        have steps : step limit thread store
              [.body (site.frame argument 15 held v d [v, held])] =
            .running store
              [.body ((site.frame argument 15 held v d []).choose (!held.same v) 2)] := rfl
        cases won with
        | false =>
            rw [decided] at steps
            exact .of_running settled rfl steps (.starting known)
        | true =>
            rw [decided] at steps
            exact .of_running settled rfl steps .returning
    | returning => exact .returned (.refl settled) rfl rfl
  · have later : site.Later objects store objects
        (store.publish site.slot.instantiation (.ok ())) := by
      refine ⟨⟨settled.loaded, fun isPresent => ?_, ?_⟩, fun _ issued => issued, ?_,
        Store.hasFailed_of_publish_ok⟩
      · rw [Store.slot?_publish]
        refine settled.present ?_
        simpa using isPresent
      · simpa [Store.held] using settled.issued
      · rw [Store.slot?_publish]
        exact id
    refine .quiet later ?_ (phase.later later).underway (.inl rfl)
    simp [Store.held]

end Rekindle.Machine.Site
