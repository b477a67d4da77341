import Rekindle.Proofs.Loading.Lockstep
import Rekindle.Proofs.Loading.Resetting
import Rekindle.Proofs.Reload.Installing
import Rekindle.Proofs.Transparency.Transparent

/-!
# Loads

The routine that runs after a reload resets the fields of its type and then does what the
initializer of the type did before the type was hooked. It resets the fields of the instantiation
it is bound to and no others.
-/

namespace Rekindle.Machine

open Fallible Reload Validity

/-- An instantiation that is initialized, or is being initialized. -/
def Store.HasBegun (store : Store) (instantiation : Instantiation) : Prop :=
  ∃ storage, store.storage? instantiation = some storage ∧
    (storage.status = .done ∨ ∃ owner, storage.status = .running owner)

/-- An instantiation that another thread initializes which does not wait for this one. -/
def Store.MustWait (thread : ThreadId) (store : Store) (instantiation : Instantiation) : Prop :=
  ∃ storage owner, store.storage? instantiation = some storage ∧
    storage.status = .running owner ∧ owner ≠ thread ∧ store.waits.reaches owner thread = false

/-- The body that the initializer of an instantiation has in a module, about to be executed. -/
def ownInitializer (module : Module) (instantiation : Instantiation) : List Activation :=
  match module.initializer instantiation.type with
  | .ok (some initializer) =>
    match module.routine? initializer with
    | some routine =>
      (routine.body.map fun body => Activation.body (Frame.start module
        ⟨instantiation.module, initializer, instantiation.arguments⟩ routine body [])).toList
    | none => []
  | _ => []

variable {limit : Nat} {thread : ThreadId} {store : Store} {instantiation : Instantiation}
  {module : Module} {type : TypeDecl} {below : List Activation}

theorem Store.HasBegun.serves (begun : store.HasBegun instantiation)
    (free : ¬store.MustWait thread instantiation) (awake : store.waits.next? thread = none)
    (formed : store.Formed) (loaded : store.modules[instantiation.module.position]? = some module)
    (declared : module.type? instantiation.type = some type) :
    store.Serves thread instantiation type.fields.length := by
  rcases begun with ⟨storage, found, status⟩
  rcases formed instantiation storage found with ⟨other, otherType, otherLoaded, otherDeclared, size⟩
  rw [loaded] at otherLoaded
  cases otherLoaded
  rw [declared] at otherDeclared
  cases otherDeclared
  refine ⟨awake, storage, found, size, ?_⟩
  rcases status with done | ⟨owner, running⟩
  · rw [done]
    rfl
  · have goesOn : owner = thread ∨ store.waits.reaches owner thread = true := by
      by_contra neither
      rw [not_or, Bool.not_eq_true] at neither
      exact free ⟨storage, owner, found, running, neither⟩
    simp only [running, Status.ask, if_pos goesOn]

/-- A thread that must wait does so, and leaves the slots as they are. -/
theorem Store.MustWait.ask (waits : store.MustWait thread instantiation) :
    ∃ waiting, store.ask thread instantiation = .ok (waiting, .wait) ∧
      ∀ place, waiting.slot? place = store.slot? place := by
  rcases waits with ⟨storage, owner, found, running, apart, unreached⟩
  have held : ¬(owner = thread ∨ store.waits.reaches owner thread = true) := by
    simp [apart, unreached]
  have asks : ∃ waiting, store.ask thread instantiation = .ok (waiting, .wait) := by
    simp only [Store.ask, Store.demand, found, ok_bind, running, Status.ask, if_neg held]
    exact ⟨_, rfl⟩
  rcases asks with ⟨waiting, asks⟩
  refine ⟨waiting, asks, ?_⟩
  intro place
  rcases ask_ok asks with ⟨asked, told⟩
  rw [told.slot?_eq]
  split
  · rename_i same
    rcases told.storage_eq with present | ⟨absent, _⟩
    · rw [Store.slot?, same, present]
      rfl
    · rw [absent] at found
      cases found
  · rfl

section Calls

variable {target : BoundRoutine} {routine : RoutineDecl} {parameters : List Value}

theorem ownerOf_found (loaded : store.module target.module = .ok module)
    (found : module.routine? target.routine = some routine) :
    ownerOf store target = .ok ⟨target.module, routine.owner, target.arguments⟩ := by
  simp only [ownerOf, loaded, ok_bind, found]
  rfl

/-- A call of a routine whose type is there enters the routine. -/
theorem Store.Serves.enters {count : Nat} {body : Body}
    (serves : store.Serves thread ⟨target.module, routine.owner, target.arguments⟩ count)
    (loaded : store.module target.module = .ok module)
    (found : module.routine? target.routine = some routine) (hasBody : routine.body = some body)
    (counted : parameters.length = routine.parameters.length)
    (shallow : Shallow limit thread store (.call target parameters :: below)) :
    attempt limit thread store (.call target parameters :: below) =
      .running store (.body (Frame.start module target routine body parameters) :: below) := by
  have attempted : attempt limit thread store (.call target parameters :: below) =
      entering limit store target parameters below := by
    simp only [attempt, call_eq (ownerOf_found loaded found), acquire, serves.ask]
  have enough := shallow.enough attempted
  rw [attempted, entering, enter_of_body enough loaded found hasBody counted]

/-- A thread that must wait before it calls a routine has changed no slot then. -/
theorem Store.MustWait.blocks
    (waits : store.MustWait thread ⟨target.module, routine.owner, target.arguments⟩)
    (loaded : store.module target.module = .ok module)
    (found : module.routine? target.routine = some routine) (limit : Nat)
    (parameters : List Value) (below : List Activation) :
    ∃ waiting, step limit thread store (.call target parameters :: below) =
        .blocked waiting (.call target parameters :: below) ∧
      ∀ place, waiting.slot? place = store.slot? place := by
  rcases waits.ask with ⟨waiting, asks, kept⟩
  refine ⟨waiting, ?_, kept⟩
  simp only [step, attempt, call_eq (ownerOf_found loaded found), acquire, asks, Attempt.settle]

end Calls

/-- A thread that calls a routine of an instantiation without arguments. -/
def Instantiation.calling (instantiation : Instantiation) (routine : RoutineId) : List Activation :=
  [.call ⟨instantiation.module, routine, instantiation.arguments⟩ []]

end Rekindle.Machine

namespace Rekindle.Reload

open Fallible Machine Validity Rekindle.Module

variable {markers : Markers} {module woven : Module} {candidate : Candidate} {type : TypeDecl}
  {dispatcher : Dispatcher} {hook : Hook} {store : Store} {limit : Nat} {thread : ThreadId}

/-- A store in which the fields of a candidate are reset in an instantiation. -/
def Candidate.resetIn (candidate : Candidate) (module : Module) (instantiation : Instantiation)
    (store : Store) : Store :=
  store.reset module instantiation (candidate.fields.map (·.field))

/-! ### What a load routine consists of -/

/-- The instructions of the routine that runs after a reload, in the module it is in. -/
def loadLine (woven : Module) (arity : Nat) (candidate : Candidate) (copy : Option RoutineId) :
    List Instruction :=
  ((candidate.fields.map (·.field)).map (resetOf woven arity)).flatten ++ ownCall arity copy

theorem Installed.load_declared {load : RoutineId}
    (installed : Installed markers dispatcher module candidate type woven hook)
    (grows : Grows module woven) (sound : candidate.Sound module) (loads : hook.load = some load) :
    ∃ routine, woven.routine? load = some routine ∧ routine.owner = candidate.type ∧
      routine.parameters = [] ∧ routine.returns = false ∧
      routine.body = some (Hook.straightLine
        (loadLine woven type.arity candidate hook.initializerCopy)) := by
  have stands := installed.load
  rw [loads] at stands
  rcases stands.some_iff with ⟨routine, made, found⟩
  unfold loadDecl? at made
  split at made
  · cases made
  · cases made
    refine ⟨_, found, rfl, rfl, rfl, ?_⟩
    rw [loadLine, List.map_map, ← resetsOf_grow grows sound]
    rfl

/-- The copy of an initializer executes the body that the initializer had. -/
theorem Installed.copy_declared {copy : RoutineId}
    (installed : Installed markers dispatcher module candidate type woven hook)
    (copies : hook.initializerCopy = some copy) :
    ∃ routine initializer original body, woven.routine? copy = some routine ∧
      routine.owner = candidate.type ∧ routine.parameters = [] ∧ routine.returns = false ∧
      routine.body = some body ∧ module.initializer candidate.type = .ok (some initializer) ∧
      module.routine? initializer = some original ∧ original.body = some body := by
  have stands := installed.copy
  rw [copies] at stands
  rcases stands.some_iff with ⟨routine, made, found⟩
  rcases copyDecl?_eq_some_iff.mp made with
    ⟨initializer, original, body, isInitializer, originalFound, bodied, rfl⟩
  exact ⟨_, initializer, original, body, found, rfl, rfl, rfl, rfl, isInitializer, originalFound,
    bodied⟩

theorem Installed.no_initializer
    (installed : Installed markers dispatcher module candidate type woven hook)
    (copies : hook.initializerCopy = none) : initializerBody? module candidate.type = none := by
  have stands := installed.copy
  rw [copies] at stands
  unfold copyDecl? at stands
  rcases hasBody : initializerBody? module candidate.type with _ | body
  · rfl
  · rw [hasBody] at stands
    cases stands

/-! ### What a load routine does -/

/-- The fields of a candidate are listed by its type in every module that grew from its own. -/
theorem Candidate.Sound.listed (sound : candidate.Sound module) (grows : Grows module woven)
    (declared : woven.type? candidate.type = some type)
    (isField : ∀ found ∈ candidate.fields, found.field ∈ type.fields) :
    ∀ id ∈ candidate.fields.map (·.field), Store.Listed woven candidate.type type id := by
  intro id listed
  rcases List.mem_map.mp listed with ⟨found, isCandidate, rfl⟩
  rcases sound.fields found isCandidate with ⟨field, fieldFound, storage, owns⟩
  exact ⟨declared, isField found isCandidate, field, grows.fields _ field fieldFound, storage, owns⟩

theorem ownInitializer_of_none {instantiation : Instantiation}
    (none_eq : initializerBody? module instantiation.type = none) :
    ownInitializer module instantiation = [] := by
  unfold initializerBody? at none_eq
  unfold ownInitializer
  split
  · rename_i initializer found
    rw [found] at none_eq
    rcases routineFound : module.routine? initializer with _ | routine
    · rfl
    · simp only [routineFound, Option.bind_some] at none_eq
      simp [none_eq]
  · rfl

variable {handle : ModuleHandle} {arguments : List ValueType} {load : RoutineId} {routine : RoutineDecl}
  {frame : Frame} {rest : List Instruction}

/-- A frame that calls the copy of an initializer last has nothing left to do then but return. -/
theorem concludes_of_ahead {arity : Nat} {copy : RoutineId}
    (ahead : frame.Ahead handle [.call (ownRoutine arity copy), .ret])
    (loaded : store.modules[handle.position]? = some woven)
    (found : woven.routine? copy = some routine) (silent : routine.returns = false) :
    frame.Concludes store.modules := by
  have current : frame.instruction? = some (.call (ownRoutine arity copy)) := ahead.instruction?
  refine ⟨?_, ahead.handlers_eq, ahead.silent, ahead.advance.instruction?⟩
  intro other result same
  have quiet : frame.calleeReturns other (ownRoutine arity copy) = false := by
    rw [← same] at loaded
    simp only [Frame.calleeReturns, ahead.module_eq, loaded, ownRoutine, found, silent]
  simp [Frame.resume, current, quiet]

/-- What is left of a load routine when the fields are reset comes to what the body of the
initializer comes to. -/
theorem Installed.copy_ends
    (installed : Installed markers dispatcher module candidate type woven hook)
    (hookable : Hookable module candidate.type)
    (declared : module.type? candidate.type = some type)
    (ahead : frame.Ahead handle (ownCall type.arity hook.initializerCopy ++ [.ret]))
    (loaded : store.modules[handle.position]? = some woven)
    (placed : type.arity = frame.arguments.length) {count : Nat}
    (serves : store.Serves thread (frame.within candidate.type) count)
    (shallow : Shallow limit thread store [.body frame]) (after : Store) (trap? : Option Trap) :
    Ends limit thread store [.body frame] after trap? ↔
      Ends limit thread store (ownInitializer module (frame.within candidate.type)) after trap? := by
  have small := hookable.arity_le type declared
  have moduleFound : store.module handle = .ok woven := by
    simp only [Store.module, loaded]
  rcases copies : hook.initializerCopy with _ | copy
  · -- there is nothing to execute
    rw [ownInitializer_of_none (installed.no_initializer copies)]
    rw [copies] at ahead
    have current : frame.instruction? = some .ret := ahead.instruction?
    have result : resultOf frame = .ok none := by
      simp [resultOf, ahead.silent]
    have finished : step limit thread store [.body frame] = .finished store (.ok none) := by
      simp only [step, attempt, current, stepBody, result]
      rfl
    have nothing : step limit thread store [] = .finished store (.ok none) := rfl
    rw [ends_of_finished finished, ends_of_finished nothing]
  · -- the copy executes the body on top of the frame, which then returns
    rcases installed.copy_declared copies with ⟨routine, initializer, original, body, found, owns,
      takesNone, silent, hasBody, isInitializer, originalFound, bodied⟩
    rw [copies] at ahead
    have toCall := attempt_ownCall ahead moduleFound placed small found takesNone limit thread []
    have shallowCall := shallow.leads (.of_running toCall)
    have enters : attempt limit thread store
        [.call ⟨handle, copy, frame.arguments⟩ [], .body frame] =
        .running store [.body (.start woven ⟨handle, copy, frame.arguments⟩ routine body []),
          .body frame] := by
      have serves := serves
      rw [Frame.within, ahead.module_eq, ← owns] at serves
      have counted : ([] : List Value).length = routine.parameters.length := by
        rw [takesNone]
        rfl
      exact serves.enters moduleFound found hasBody counted shallowCall
    have toBody := Leads.trans (.of_running toCall) (.of_running enters)
    have silentOriginal : original.returns = false := by
      have isVoid := (hookable.initializer initializer original isInitializer originalFound).2
      simp [RoutineDecl.returns, isVoid, ValueType.isVoid]
    have alone : ownInitializer module (frame.within candidate.type) =
        [.body ((Frame.start woven ⟨handle, copy, frame.arguments⟩ routine body []).named
          (some ⟨initializer, module.routineName initializer⟩))] := by
      simp only [ownInitializer, Frame.within, isInitializer, originalFound, bodied,
        ahead.module_eq, Frame.named, Frame.start, silent, silentOriginal]
      rfl
    rw [ends_of_leads toBody, alone]
    exact (Alongside.last _).ends (concludes_of_ahead ahead loaded found silent) rfl
      (shallow.leads toBody)

/-- The routine that runs after a reload comes to what the body of the initializer comes to where
the fields are reset. -/
theorem Installed.load_ends
    (installed : Installed markers dispatcher module candidate type woven hook)
    (grows : Grows module woven) (sound : candidate.Sound module)
    (isField : ∀ found ∈ candidate.fields, found.field ∈ type.fields)
    (hookable : Hookable module candidate.type)
    (declared : module.type? candidate.type = some type) (loads : hook.load = some load)
    (loaded : store.modules[handle.position]? = some woven)
    (placed : arguments.length = type.arity)
    (serves : store.Serves thread ⟨handle, candidate.type, arguments⟩ type.fields.length)
    (shallow : Shallow limit thread store [.call ⟨handle, load, arguments⟩ []])
    (after : Store) (trap? : Option Trap) :
    Ends limit thread store [.call ⟨handle, load, arguments⟩ []] after trap? ↔
      Ends limit thread
        (store.reset woven ⟨handle, candidate.type, arguments⟩ (candidate.fields.map (·.field)))
        (ownInitializer module ⟨handle, candidate.type, arguments⟩) after trap? := by
  have small := hookable.arity_le type declared
  rcases installed.declared with ⟨routines, wovenDeclared⟩
  rcases installed.load_declared grows sound loads with
    ⟨routine, found, owns, takesNone, silent, hasBody⟩
  have moduleFound : store.module handle = .ok woven := by
    simp only [Store.module, loaded]
  let frame : Frame := .start woven ⟨handle, load, arguments⟩ routine
    (Hook.straightLine (loadLine woven type.arity candidate hook.initializerCopy)) []
  have enters : attempt limit thread store [.call ⟨handle, load, arguments⟩ []] =
      .running store [.body frame] := by
    have serves := serves
    rw [← owns] at serves
    have counted : ([] : List Value).length = routine.parameters.length := by
      rw [takesNone]
      rfl
    exact serves.enters moduleFound found hasBody counted shallow
  have within_eq : frame.within candidate.type = ⟨handle, candidate.type, arguments⟩ := rfl
  rw [← within_eq] at serves ⊢
  have target_eq : (⟨handle, load, arguments⟩ : BoundRoutine).module = handle := rfl
  have started : frame.Ahead handle
      (loadLine woven type.arity candidate hook.initializerCopy ++ [.ret]) :=
    start_ahead target_eq silent woven _
  rw [loadLine, List.append_assoc] at started
  rcases resets_lead limit [] started moduleFound placed.symm small
    (sound.listed grows wovenDeclared isField) serves with ⟨resets, ahead⟩
  have toReset := Leads.trans (.of_running enters) resets
  rw [ends_of_leads toReset]
  have loadedLater : (store.reset woven (frame.within candidate.type)
      (candidate.fields.map (·.field))).modules[handle.position]? = some woven := by
    rwa [Store.modules_reset]
  exact installed.copy_ends hookable declared ahead loadedLater placed.symm (serves.reset woven _)
    (shallow.leads toReset) after trap?

/-- After a reload, the routine to run for a type first resets the fields of the instantiation that
it is bound to, and no other slot, and then comes to what the body of the initializer that the type
had comes to. A thread that finds the type being initialized by another thread waits before it does
anything. -/
theorem load_resets_and_initializes {settings : Settings} {symbols : Option Symbols}
    {survey : Survey} {instrumented : Instrumented}
    (makes : instrument settings module symbols = .ok (some instrumented))
    (surveyed : Survey.ofModule settings.markers module symbols = .ok survey)
    (room : Room module 1 2 (4 + 4 * survey.candidates.length))
    (listed : candidate ∈ survey.candidates) (hookable : Hookable module candidate.type)
    (declared : module.type? candidate.type = some type)
    (hooked : hook ∈ instrumented.hooks) (same : hook.type = candidate.type)
    (loads : hook.load = some load) {instantiation : Instantiation}
    (ofType : instantiation.type = candidate.type)
    (placed : instantiation.arguments.length = type.arity) (occurs : store.Occurs)
    (loaded : store.modules[instantiation.module.position]? = some instrumented.module)
    (begun : store.HasBegun instantiation) (awake : store.waits.next? thread = none)
    (shallow : Shallow limit thread store (instantiation.calling load)) :
    (store.MustWait thread instantiation →
      ∃ waiting, step limit thread store (instantiation.calling load) =
          .blocked waiting (instantiation.calling load) ∧
        ∀ place, waiting.slot? place = store.slot? place) ∧
      (¬store.MustWait thread instantiation →
        (∀ place, (candidate.resetIn instrumented.module instantiation store).slot? place =
          if place.instantiation = instantiation ∧ ∃ found ∈ candidate.fields,
              Store.slotOf instrumented.module found.field = .ok place.slot then
            (Store.freshStorage instrumented.module type instantiation.arguments).slots[place.slot]?
          else store.slot? place) ∧
        ∀ after trap?, Ends limit thread store (instantiation.calling load) after trap? ↔
          Ends limit thread (candidate.resetIn instrumented.module instantiation store)
            (ownInitializer module instantiation) after trap?) := by
  rcases instantiation with ⟨handle, owner, arguments⟩
  simp only at ofType
  subst ofType
  have made := instrument_made makes surveyed room
  have sound := made.sound candidate listed
  rcases made.installed.of_hook hooked with ⟨other, otherListed, otherType, otherDeclared, installed⟩
  have same_candidate : other = candidate :=
    List.inj_on_of_nodup_map made.distinct otherListed listed (installed.type_eq.symm.trans same)
  subst same_candidate
  rw [declared] at otherDeclared
  cases otherDeclared
  rcases installed.declared with ⟨routines, wovenDeclared⟩
  refine ⟨?_, ?_⟩
  · intro waits
    rcases installed.load_declared made.grows sound loads with ⟨routine, found, owns, _⟩
    have moduleFound : store.module handle = .ok instrumented.module := by
      simp only [Store.module, loaded]
    rw [← owns] at waits
    let target : BoundRoutine := ⟨handle, load, arguments⟩
    have waitsForOwner : store.MustWait thread ⟨target.module, routine.owner, target.arguments⟩ :=
      waits
    exact waitsForOwner.blocks moduleFound found limit [] []
  · intro free
    have serves := begun.serves free awake occurs.formed loaded wovenDeclared
    have isField : ∀ found ∈ other.fields, found.field ∈ type.fields := by
      rcases Survey.candidates_listed surveyed other listed with ⟨found, foundDeclared, isField⟩
      rw [declared] at foundDeclared
      cases foundDeclared
      exact isField
    refine ⟨?_, ?_⟩
    · intro place
      rw [Candidate.resetIn,
        Store.slot?_reset serves (sound.listed made.grows wovenDeclared isField) place]
      simp only [List.mem_map, exists_exists_and_eq_and]
      rfl
    · exact installed.load_ends made.grows sound isField hookable declared loads loaded placed serves
        shallow

end Rekindle.Reload

/-! ### A counter that was used -/

namespace Rekindle.Reload.Counter

open Machine

/-- The store after the counter of strings was bumped. -/
def bumped : Store :=
  ((run 256 hostThread 60 (Weave.loadedWith instrumented.module)
    [.call ⟨firstModule, ⟨1⟩, [.string]⟩ []]).map (·.1)).getD .empty

theorem bumped_occurs : bumped.Occurs := by
  have reloadable := instrument_reloadable makes surveyed (by simpa using hookable)
    (by constructor <;> decide)
  have loaded : (Weave.loadedWith instrumented.module).Occurs :=
    .loaded .fresh (Weave.load_valid reloadable.stillValid)
  have runs : run 256 hostThread 60 (Weave.loadedWith instrumented.module)
      [.call ⟨firstModule, ⟨1⟩, [.string]⟩ []] = some (bumped, .ok (some (.int32 6))) := rfl
  exact loaded.run runs

/-- The counter of strings stands at six, and after a reload it starts from five again. -/
theorem load_resets_and_initializes_counter :
    ∃ place after, bumped.slot? place = some (.int32 6) ∧
      Ends 256 hostThread bumped [.call ⟨firstModule, ⟨7⟩, [.string]⟩ []] after none ∧
      after.slot? place = some (.int32 5) := by
  have shallow : Shallow 256 hostThread bumped [.call ⟨firstModule, ⟨7⟩, [.string]⟩ []] :=
    shallow_of_endsShallow (show endsShallow 256 hostThread 60 _ _ = true by decide +kernel)
  have ofCounter : (⟨firstModule, ⟨0⟩, [.string]⟩ : Instantiation).type = candidate.type := rfl
  have begun : bumped.HasBegun ⟨firstModule, ⟨0⟩, [.string]⟩ := ⟨_, rfl, .inl rfl⟩
  have free : ¬bumped.MustWait hostThread ⟨firstModule, ⟨0⟩, [.string]⟩ := by
    rintro ⟨storage, owner, found, running, _⟩
    cases found
    cases running
  have reloads := load_resets_and_initializes makes surveyed (by constructor <;> decide)
    (List.mem_singleton.mpr rfl) hookable rfl (List.mem_singleton.mpr rfl) rfl rfl ofCounter rfl
    bumped_occurs rfl begun rfl shallow
  have ended : ∃ after, run 256 hostThread 60
      (bumped.reset instrumented.module ⟨firstModule, ⟨0⟩, [.string]⟩ [⟨0⟩])
      (ownInitializer module ⟨firstModule, ⟨0⟩, [.string]⟩) = some (after, .ok none) ∧
      after.slot? ⟨⟨firstModule, ⟨0⟩, [.string]⟩, 0⟩ = some (.int32 5) := ⟨_, rfl, rfl⟩
  rcases ended with ⟨after, runs, five⟩
  refine ⟨⟨⟨firstModule, ⟨0⟩, [.string]⟩, 0⟩, after, rfl, ?_, five⟩
  exact ((reloads.2 free).2 after none).mpr ⟨60, .ok none, runs, rfl⟩

end Rekindle.Reload.Counter
