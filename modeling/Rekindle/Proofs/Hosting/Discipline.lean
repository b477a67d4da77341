import Rekindle.Proofs.Hosting.Orderly
import Rekindle.Proofs.Hosting.Serving

/-!
# The discipline of initialization

Over every history of a machine whose one thread serves a host, an instantiation is initialized at
most once and before it is used, what has failed has failed for good and in the same way for
everyone who asks, and no initialization is left unfinished when the thread is idle.
-/

namespace Rekindle.Machine

/-- The initializer of an instantiation was started at one of some moments, with a stack. -/
def Began (moments : List Moment) (activations : List Activation)
    (instantiation : Instantiation) : Prop :=
  ∃ start ∈ moments, start.activations = activations ∧
    Starts hostThread start.store activations instantiation

/-- What holds of a history of a machine with one thread. The history is given latest first, so its
ends are the histories up to each of its moments. -/
structure Disciplined (limits : Limits) (moments : List Moment) : Prop where
  /-- An initializer is started at most once. -/
  once : ∀ now earlier, now :: earlier <:+ moments → ∀ instantiation,
    Starts hostThread now.store now.activations instantiation →
      ∀ before ∈ earlier, ¬Starts hostThread before.store before.activations instantiation
  /-- A status never goes back, and when an initialization has ended it never changes. -/
  advances : ∀ now earlier, now :: earlier <:+ moments → ∀ before ∈ earlier, ∀ instantiation,
    Advances (before.store.status? instantiation) (now.store.status? instantiation) ∧
      ∀ status, before.store.status? instantiation = some status → status.IsFinal →
        now.store.status? instantiation = some status
  /-- A field is resolved only while its type can be used. -/
  resolves : ∀ now ∈ moments, ∀ frame below place, now.activations = .body frame :: below →
    Resolves hostThread now.store frame place →
      now.store.status? place.instantiation = some (.running hostThread) ∨
        now.store.status? place.instantiation = some .done
  /-- A body is executed only while its type can be used. -/
  executes : ∀ now ∈ moments, ∀ frame, .body frame ∈ now.activations →
    ∃ owner, ownerOf now.store frame.executed = .ok owner ∧
      (now.store.status? owner = some (.running hostThread) ∨
        now.store.status? owner = some .done)
  /-- When an initializer fails, the access that started it asks again. -/
  returns : ∀ now before earlier, now :: before :: earlier <:+ moments → ∀ instantiation cause,
    now.store.status? instantiation = some (.failed cause) →
      before.store.status? instantiation ≠ some (.failed cause) →
        Asks now.store now.activations instantiation ∧
          Began (before :: earlier) now.activations instantiation
  /-- Whoever asks for what has failed is given the same error, which is handed to the host unless
  another initializer ends by it. -/
  fails : ∀ now earlier, now :: earlier <:+ moments → ∀ before ∈ now :: earlier,
    ∀ instantiation cause, before.store.status? instantiation = some (.failed cause) →
      Asks now.store now.activations instantiation → ∃ after,
        attempt limits.callDepth hostThread now.store now.activations = .raised after
          (.typeInitializationFailed (before.store.typeName instantiation) cause)
          now.activations ∧
        (initializing now.activations = [] →
          step limits.callDepth hostThread now.store now.activations = .finished after
            (.error (.typeInitializationFailed (before.store.typeName instantiation) cause)))
  /-- When the thread is idle every initialization that was begun has ended. -/
  idle : ∀ now ∈ moments, now.activations = [] → ∀ instantiation status,
    now.store.status? instantiation = some status → status.IsFinal

variable {limits : Limits} {offers : Array Module → Value → Prop}
  {began : List Activation → Instantiation → Prop} {store after : Store}
  {activations next : List Activation} {instantiation : Instantiation} {now : Moment}
  {moments earlier : List Moment}

/-! ### What happens next -/

/-- Whatever happens on the host's thread keeps the order. -/
theorem Happens.goesOn
    (happens : Happens offers limits hostThread store activations after next)
    (orderly : Orderly began store activations)
    (begins : ∀ instantiation, Starts hostThread store activations instantiation →
      began activations instantiation) : GoesOn began store after next := by
  have stepped := step_orderly orderly begins limits.callDepth
  cases happens with
  | loads loads =>
      have passed := orderly.passed.load loads
      rcases Store.load_ok loads with ⟨_, rfl, _⟩
      exact ⟨⟨fun _ _ loaded => getElem?_push loaded _, fun _ => .refl⟩,
        fun _ _ failed => .inl failed, passed, orderly.settled.of_same fun _ => rfl, .nil⟩
  | calls | accesses => exact (Store.Goes.refl store).goesOn (orderly.push rfl)
  | writes => exact orderly.goesOn_of_same rfl (Store.status?_setSlot store _ _)
  | issues | collects => exact orderly.goesOn_of_same rfl fun _ => rfl
  | steps running =>
      rw [running] at stepped
      exact stepped
  | waits blocked =>
      rw [blocked] at stepped
      cases stepped
  | finishes finished =>
      rw [finished] at stepped
      exact stepped

theorem Happens.occurs {thread : ThreadId}
    (happens : Happens offers limits thread store activations after next)
    (occurs : store.Occurs) : after.Occurs := by
  have stepped := occurs.stepped limits.callDepth thread activations
  cases happens with
  | loads loads => exact .loaded occurs loads
  | calls | accesses => exact occurs
  | writes => exact .wrote occurs _ _
  | issues => exact .madeCallback occurs _
  | collects => exact .collected occurs
  | steps progress | waits progress | finishes progress =>
      rw [progress] at stepped
      exact stepped

/-! ### Initializers that begin -/

/-- Storage that has arisen stays. -/
theorem Store.Changes.isSome_status? {thread : ThreadId} (changes : Store.Changes thread store after)
    (arisen : (store.status? instantiation).isSome = true) :
    (after.status? instantiation).isSome = true := by
  induction changes with
  | refl => exact arisen
  | tail _ change ih =>
      cases change with
      | ask asks =>
          rcases Store.ask_ok asks with ⟨storage, asked⟩
          rw [asked.status?_after]
          split
          · rfl
          · exact ih
      | publish =>
          rw [Store.status?_publish]
          split
          · rename_i same
            rw [Option.isSome_map, ← same]
            exact ih
          · exact ih
      | setSlot =>
          rw [Store.status?_setSlot]
          exact ih
      | issue => exact ih

theorem Attempt.settle_changes (thread : ThreadId) (attempt : Attempt) :
    Store.Changes thread attempt.store attempt.settle.store := by
  cases attempt with
  | running | blocked | returned => exact .refl
  | raised store trap activations => exact unwind_changes thread store trap activations

/-- When its initializer begins, an instantiation has storage. -/
theorem Starts.arises (starts : Starts hostThread store activations instantiation)
    (happens : Happens offers limits hostThread store activations after next) :
    (after.status? instantiation).isSome = true := by
  rcases starts with ⟨asks, middle, asked⟩
  rcases asks.attempt_eq limits.callDepth hostThread with ⟨proceed, attempts⟩
  have arisen : (middle.status? instantiation).isSome = true := by
    rcases Store.ask_ok asked with ⟨storage, wasAsked⟩
    rw [wasAsked.status?_run.2.2]
    rfl
  have begins : attempt limits.callDepth hostThread store activations =
      startInitializer limits.callDepth middle instantiation activations := by
    rw [attempts, acquire, asked]
  have steps : ((step limits.callDepth hostThread store activations).store.status?
      instantiation).isSome = true := by
    have changes := Attempt.settle_changes hostThread
      (attempt limits.callDepth hostThread store activations)
    rw [begins, startInitializer_store, ← begins] at changes
    exact changes.isSome_status? arisen
  cases happens with
  | loads | calls | accesses | writes | issues | collects => cases asks
  | steps progress | waits progress | finishes progress =>
      rw [progress] at steps
      exact steps

/-! ### Histories -/

theorem Began.cons (began : Began moments activations instantiation) (later : Moment) :
    Began (later :: moments) activations instantiation := by
  rcases began with ⟨start, listed, starts⟩
  exact ⟨start, List.mem_cons_of_mem _ listed, starts⟩

namespace History

/-- Every end of a history is a history. -/
theorem of_suffix (history : History limits moments) (ends : now :: earlier <:+ moments) :
    History limits (now :: earlier) := by
  induction history with
  | fresh =>
      rcases List.suffix_cons_iff.mp ends with same | none
      · rw [same]
        exact .fresh
      · cases List.suffix_nil.mp none
  | next before happens ih =>
      rcases List.suffix_cons_iff.mp ends with same | older
      · rw [same]
        exact .next before happens
      · exact ih older

theorem orderly (history : History limits (now :: earlier)) :
    Orderly (Began (now :: earlier)) now.store now.activations := by
  -- Stated of all moments, since the induction is on how the whole history came about.
  suffices all : ∀ moments, History limits moments → ∀ now earlier, moments = now :: earlier →
      Orderly (Began (now :: earlier)) now.store now.activations from
    all _ history now earlier rfl
  intro moments history
  induction history with
  | fresh =>
      rintro now earlier ⟨⟩
      refine ⟨?_, ⟨⟨.nil, List.forall_mem_nil _⟩, ?_⟩, .nil⟩
      · intro position module loaded
        cases loaded
      · intro instantiation status found
        cases found
  | @next before later older _ happens ih =>
      rintro now earlier ⟨⟩
      have goesOn := happens.goesOn (ih before older rfl) fun instantiation starts =>
        ⟨before, List.mem_cons_self, rfl, starts⟩
      exact (goesOn.mono fun _ _ began => began.cons later).orderly

theorem goesOn {before : Moment} (history : History limits (now :: before :: earlier)) :
    GoesOn (Began (before :: earlier)) before.store now.store now.activations := by
  cases history with
  | next before happens =>
      exact happens.goesOn before.orderly fun instantiation starts =>
        ⟨_, List.mem_cons_self, rfl, starts⟩

theorem occurs (history : History limits (now :: earlier)) : now.store.Occurs := by
  suffices all : ∀ moments, History limits moments → ∀ now earlier, moments = now :: earlier →
      now.store.Occurs from all _ history now earlier rfl
  intro moments history
  induction history with
  | fresh =>
      rintro now earlier ⟨⟩
      exact .fresh
  | @next before later older _ happens ih =>
      rintro now earlier ⟨⟩
      exact happens.occurs (ih before older rfl)

end History

theorem Store.typeName_congr (same : after.modules[instantiation.module.position]? =
      store.modules[instantiation.module.position]?) :
    after.typeName instantiation = store.typeName instantiation := by
  simp only [Store.typeName, same]

theorem exists_end (listed : now ∈ moments) : ∃ earlier, now :: earlier <:+ moments := by
  rcases List.append_of_mem listed with ⟨later, earlier, rfl⟩
  exact ⟨earlier, List.suffix_append _ _⟩

/-- A moment before another one. -/
structure Moment.Precedes (before now : Moment) : Prop where
  evolves : before.store.Evolves now.store
  arisen : ∀ instantiation, Starts hostThread before.store before.activations instantiation →
    (now.store.status? instantiation).isSome = true

namespace History

theorem precedes (history : History limits (now :: earlier)) {before : Moment}
    (listed : before ∈ earlier) : before.Precedes now := by
  induction earlier generalizing now with
  | nil => cases listed
  | cons last older ih =>
      have evolves := history.goesOn.evolves
      have history' := history
      cases history' with
      | next beforeNow happens =>
          rcases List.mem_cons.mp listed with rfl | longAgo
          · exact ⟨evolves, fun instantiation starts => starts.arises happens⟩
          · have precedes := ih beforeNow longAgo
            refine ⟨precedes.evolves.trans evolves, ?_⟩
            intro instantiation starts
            exact (evolves.advances instantiation).isSome (precedes.arisen instantiation starts)

/-- What the thread is told at a moment. -/
theorem told (history : History limits (now :: earlier)) {ticket : Ticket Trap}
    (asked : now.store.ask hostThread instantiation = .ok (after, ticket)) :
    Told now.store after instantiation (initializing now.activations) ticket := by
  rcases Store.ask_ok asked with ⟨storage, wasAsked⟩
  exact history.orderly.settled.told wasAsked

theorem evolves (history : History limits (now :: earlier)) {before : Moment}
    (listed : before ∈ now :: earlier) : before.store.Evolves now.store := by
  rcases List.mem_cons.mp listed with rfl | longAgo
  · exact .refl before.store
  · exact (history.precedes longAgo).evolves

/-- What has storage has a type, whose name stays the same. -/
theorem declared (history : History limits moments) {before : Moment} (listed : before ∈ moments)
    {status : Status Trap} (found : before.store.status? instantiation = some status) :
    ∃ module type, before.store.modules[instantiation.module.position]? = some module ∧
      module.type? instantiation.type = some type := by
  rcases exists_end listed with ⟨older, ends⟩
  rcases Option.map_eq_some_iff.mp found with ⟨storage, present, _⟩
  rcases (history.of_suffix ends).occurs.formed _ storage present with
    ⟨module, type, loaded, declared, _⟩
  exact ⟨module, type, loaded, declared⟩

theorem typeName_eq (history : History limits (now :: earlier)) {before : Moment}
    (listed : before ∈ now :: earlier) {status : Status Trap}
    (found : before.store.status? instantiation = some status) :
    now.store.typeName instantiation = before.store.typeName instantiation := by
  rcases history.declared listed found with ⟨module, _, loaded, _⟩
  exact Store.typeName_congr
    (((history.evolves listed).loaded _ module loaded).trans loaded.symm)

theorem starts_once (history : History limits (now :: earlier))
    (starts : Starts hostThread now.store now.activations instantiation) {before : Moment}
    (listed : before ∈ earlier) :
    ¬Starts hostThread before.store before.activations instantiation := by
  intro started
  -- What was started has storage ever since, and a thread is told to start only what has none.
  have arisen := (history.precedes listed).arisen instantiation started
  rcases starts with ⟨_, after, asked⟩
  cases history.told asked with
  | run unseen =>
      rw [unseen] at arisen
      cases arisen

/-- Whoever asks for what has failed is given the reason. -/
theorem raises (history : History limits (now :: earlier)) {cause : Trap}
    (failed : now.store.status? instantiation = some (.failed cause))
    (asks : Asks now.store now.activations instantiation) :
    ∃ after, attempt limits.callDepth hostThread now.store now.activations = .raised after
      (.typeInitializationFailed (now.store.typeName instantiation) cause) now.activations := by
  rcases history.declared List.mem_cons_self failed with ⟨module, type, loaded, declared⟩
  rcases Store.ask_succeeds hostThread loaded declared with ⟨after, ticket, asked⟩
  rcases Store.ask_ok asked with ⟨_, wasAsked⟩
  rcases asks.attempt_eq limits.callDepth hostThread with ⟨proceed, attempts⟩
  refine ⟨after, ?_⟩
  cases history.told asked with
  | ready active =>
      rcases history.orderly.settled.usable active with running | done
      · rw [running] at failed
        cases failed
      · rw [done] at failed
        cases failed
  | run unseen =>
      rw [unseen] at failed
      cases failed
  | failed reason given =>
      rw [given] at failed
      cases failed
      have sameName : after.typeName instantiation = now.store.typeName instantiation :=
        Store.typeName_congr (by rw [wasAsked.modules_eq])
      simp only [attempts, acquire, asked, sameName]

/-- When the thread is idle, every initialization that was begun has ended. -/
theorem ended (history : History limits (now :: earlier)) (idle : now.activations = [])
    {status : Status Trap} (found : now.store.status? instantiation = some status) :
    status.IsFinal := by
  have settled := history.orderly.settled
  rw [idle] at settled
  rcases settled.others instantiation status found with final | initializing
  · exact final
  · cases initializing

/-- When a request has been performed, whatever came of it, no initialization is left unfinished. -/
theorem settles {request : Request} {steps : Nat}
    (history : History limits (⟨store, []⟩ :: earlier))
    (performs : request.perform limits steps store = some after) {status : Status Trap}
    (found : after.status? instantiation = some status) : status.IsFinal := by
  rcases history.performs performs with ⟨between, later, _⟩
  exact later.ended rfl found

/-- Over every history of loading modules and of whatever a host asks for, initialization is
disciplined. -/
theorem disciplined (history : History limits moments) : Disciplined limits moments := by
  refine ⟨?_, ?_, ?_, ?_, ?_, ?_, ?_⟩
  · intro now earlier ends instantiation starts before listed
    exact (history.of_suffix ends).starts_once starts listed
  · intro now earlier ends before listed instantiation
    have evolves := ((history.of_suffix ends).precedes listed).evolves
    exact ⟨evolves.advances instantiation, fun status => evolves.final⟩
  · intro now listed frame below place stack resolves
    rcases exists_end listed with ⟨earlier, ends⟩
    have here := history.of_suffix ends
    rcases resolves with ⟨_, after, asked⟩
    cases here.told asked with
    | ready active => exact here.orderly.settled.usable active
  · intro now listed frame executing
    rcases exists_end listed with ⟨earlier, ends⟩
    have orderly := (history.of_suffix ends).orderly
    rcases orderly.ordered.executes executing with ⟨owner, owned, active⟩
    exact ⟨owner, owned, orderly.settled.usable active⟩
  · intro now before earlier ends instantiation cause failed unfailed
    exact ((history.of_suffix ends).goesOn.failed instantiation cause failed).resolve_left unfailed
  · intro now earlier ends before listed instantiation cause failed asks
    have here := history.of_suffix ends
    have stillFailed := (here.evolves listed).final failed trivial
    rcases here.raises stillFailed asks with ⟨after, attempts⟩
    rw [here.typeName_eq listed failed] at attempts
    refine ⟨after, attempts, ?_⟩
    intro startsNothing
    rw [step, attempts, Attempt.settle]
    exact unwind_uncaught (by simp) startsNothing
  · intro now listed idle instantiation status found
    rcases exists_end listed with ⟨earlier, ends⟩
    exact (history.of_suffix ends).ended idle found

end History

/-! ### An initializer that throws -/

namespace Faulty

def initializer : Body where
  zeroesLocals := false
  locals := []
  instructions := #[.loadInt32 7, .throw]
  handlers := []

def module : Module where
  name := "app"
  identity := Vector.replicate 16 0
  references := []
  types := #[{ TypeDecl.named "Faulty" with fields := [⟨0⟩], routines := [⟨0⟩] }]
  fields := #[FieldDecl.static "count" .int32]
  routines := #[RoutineDecl.typeInitializer initializer]
  topLevel := [⟨0⟩]

def loaded : Store := { Store.empty with modules := #[module] }

def faulty : Instantiation where
  module := ⟨0⟩
  type := ⟨0⟩
  arguments := []

/-- The store after the field was asked for in vain. -/
def broken : Store := ((Request.read ⟨0⟩ ⟨0⟩ []).perform {} 8 loaded).getD .empty

theorem loads : Store.empty.load module = .ok (loaded, ⟨0⟩) := by
  have accepted : Validity.checkModule module = .ok () :=
    Validity.checkModule_ok (by cbv) rfl rfl (by cbv)
  simp only [Store.load, accepted]
  rfl

/-- Whoever reads the field later is given the reason why it was asked for in vain. -/
theorem disciplined_faulty :
    broken.status? faulty = some (.failed (.thrown (.int32 7))) ∧
      ∃ after, step 256 hostThread broken [.access faulty] = .finished after
        (.error (.typeInitializationFailed (broken.typeName faulty) (.thrown (.int32 7)))) := by
  have failed : broken.status? faulty = some (.failed (.thrown (.int32 7))) := rfl
  have history : History {} [⟨loaded, []⟩, ⟨.empty, []⟩] := .next .fresh (.loads loads)
  have reads : (Request.read ⟨0⟩ ⟨0⟩ []).perform {} 8 loaded = some broken := rfl
  rcases history.performs reads with ⟨earlier, history, _⟩
  have allowed : broken.hostAddress ⟨0⟩ ⟨0⟩ [] = .ok ⟨faulty, 0⟩ := rfl
  have again : History {} (⟨broken, [.access faulty]⟩ :: ⟨broken, []⟩ :: earlier) :=
    .next history (.accesses allowed)
  have asks : Asks broken [.access faulty] faulty := .access faulty []
  rcases again.disciplined.fails _ _ List.suffix_rfl ⟨broken, []⟩ (by simp) faulty _ failed asks with
    ⟨after, _, finishes⟩
  exact ⟨failed, after, finishes rfl⟩

end Faulty

end Rekindle.Machine
