import Rekindle.Proofs.Loading.Resetting
import Rekindle.Proofs.Statics.Reaching
import Rekindle.Proofs.Statics.Unseen

/-!
# Hosts and static members

A host that asks to call static routines only, and that hands over only values that lead to static
members, comes to no other members. The machine refuses to read or to write a field without storage
for its host, but it calls every routine that the host names, static or not. A place that a static
field has is no other field's, as long as the types list their static fields.
-/

namespace Rekindle.Machine

open Fallible Validity Reload

/-- What a host may hand over: nothing that leads to a member that is not static. -/
def offersStatic (modules : Array Module) (value : Value) : Prop :=
  value.Within (statics modules)

/-- A place that a type has for a field without storage, one that is not static or is a literal. -/
def Address.IsVacant (modules : Array Module) (place : Address) : Prop :=
  ∃ module type id field, modules[place.instantiation.module.position]? = some module ∧
    module.type? place.instantiation.type = some type ∧ type.fields[place.slot]? = some id ∧
      module.field? id = some field ∧ field.hasStorage = false

/-- Values that lead to static routines, and to some places only. -/
def staticsAt (modules : Array Module) (used : Address → Prop) : Scope where
  routines := BoundRoutine.IsStatic modules
  places := used

/-- Modules whose types list all static fields that name them as their owners. -/
def ListsStatics (modules : Array Module) : Prop :=
  ∀ (position : Nat) (module : Module) (id : FieldId) (field : FieldDecl) (type : TypeDecl),
    modules[position]? = some module → module.field? id = some field →
      field.hasStorage = true → module.type? field.owner = some type → id ∈ type.fields

/-- The states of a machine with any number of threads whose host hands over only values that lead
to static members, and asks to call only static routines and some others. -/
inductive ServedOn (others : BoundRoutine → Prop) (limits : Limits) :
    Store → (ThreadId → List Activation) → Prop where
  | fresh : ServedOn others limits .empty fun _ => []
  | next {store after : Store} {threads : ThreadId → List Activation} {thread : ThreadId}
      {activations : List Activation} (before : ServedOn others limits store threads)
      (happens : Happens offersStatic limits thread store (threads thread) after activations)
      (calls : ∀ target parameters, threads thread = [] →
        activations = [.call target parameters] → target.IsStatic store.modules ∨ others target) :
      ServedOn others limits after (Function.update threads thread activations)

/-- A machine that reads and writes some places only. -/
structure UsesOnly (used : Address → Prop) (limits : Limits) (store : Store)
    (threads : ThreadId → List Activation) : Prop where
  /-- Nothing that happens next writes another place. -/
  writes : ∀ thread after next place value,
    Happens offersStatic limits thread store (threads thread) after next →
      ¬used place → store.slot? place = some value → after.slot? place = some value
  /-- No step depends on what another place holds. -/
  reads : ∀ thread other, store.Resembles used other →
    Progress.Resembles used (step limits.callDepth thread store (threads thread))
      (step limits.callDepth thread other (threads thread))
  /-- A host reads and writes no other place. -/
  places : ∀ handle id arguments place, store.hostAddress handle id arguments = .ok place →
    used place

/-- A machine that comes to static members only, and to some other routines. -/
structure OnlyStatics (others : BoundRoutine → Prop) (limits : Limits) (store : Store)
    (threads : ThreadId → List Activation) : Prop where
  /-- A body in execution is that of a static routine. -/
  bodies : ∀ thread frame, .body frame ∈ threads thread →
    frame.executed.IsStatic store.modules ∨ others frame.executed
  /-- Every place that is read or written is that of a static field. -/
  fields : UsesOnly (Address.IsStatic store.modules) limits store threads
  /-- If types list their static fields, what a type has for a field without storage is neither read
  nor written. -/
  vacant : ListsStatics store.modules →
    UsesOnly (fun place => ¬place.IsVacant store.modules) limits store threads
  /-- A host that names a field without storage is told so, and nothing changes. -/
  refuses : ∀ handle id arguments module field, store.modules[handle.position]? = some module →
    module.field? id = some field → field.hasStorage = false → ∀ steps value,
      let refusal := Trap.unknownField (module.fieldName id ++ " has no static storage")
      store.readField limits steps handle id arguments = some (store, .error refusal) ∧
        store.writeField limits steps handle id arguments value = some (store, .error refusal)
  /-- What a host reads it may hand over again. -/
  holds : ∀ place value, store.slot? place = some value → offersStatic store.modules value
  /-- What a host is given, or what is thrown to it, it may hand over again. -/
  returns : ∀ thread after result,
    step limits.callDepth thread store (threads thread) = .finished after result →
      (statics store.modules).Confines result fun given =>
        ∀ value, given = some value → offersStatic store.modules value

variable {modules : Array Module} {others : BoundRoutine → Prop} {limits : Limits}
  {thread : ThreadId} {store after : Store} {activations next : List Activation}

/-! ### Loading more modules -/

section Push

theorem BoundRoutine.IsStatic.push {target : BoundRoutine} (static : target.IsStatic modules)
    (added : Module) : target.IsStatic (modules.push added) := by
  rcases static with ⟨module, routine, loaded, found, isStatic⟩
  exact ⟨module, routine, getElem?_push loaded added, found, isStatic⟩

theorem Address.IsStatic.push {place : Address} (static : place.IsStatic modules)
    (added : Module) : place.IsStatic (modules.push added) := by
  rcases static with ⟨module, id, field, loaded, found, storage, owner, slot⟩
  exact ⟨module, id, field, getElem?_push loaded added, found, storage, owner, slot⟩

theorem offersStatic_push {value : Value} (offered : offersStatic modules value)
    (added : Module) : offersStatic (modules.push added) value :=
  offered.widen (fun _ static => BoundRoutine.IsStatic.push static added)
    fun _ static => Address.IsStatic.push static added

theorem Frame.OnStatics.push {frame : Frame} (keeps : frame.OnStatics modules) (added : Module) :
    frame.OnStatics (modules.push added) := by
  rcases keeps.body with ⟨module, routine, loaded, found, hasBody⟩
  exact ⟨⟨module, routine, getElem?_push loaded added, found, hasBody⟩,
    keeps.within.widen (fun _ static => BoundRoutine.IsStatic.push static added)
      fun _ static => Address.IsStatic.push static added⟩

theorem Activation.OnStatics.push {activation : Activation}
    (keeps : activation.OnStatics modules others) (added : Module) :
    activation.OnStatics (modules.push added) others := by
  cases activation with
  | body frame => exact ⟨keeps.1.imp (·.push added) id, keeps.2.push added⟩
  | call target parameters =>
      exact ⟨keeps.1.imp (·.push added) id,
        fun value listed => offersStatic_push (keeps.2 value listed) added⟩
  | targets listed => exact fun target member => (keeps target member).imp (·.push added) id
  | initializer | access => trivial

end Push

/-! ### Places of static fields -/

/-- Where types list their static fields, the place of one is no other field's. -/
theorem Address.IsStatic.not_isVacant {place : Address} (static : place.IsStatic modules)
    (lists : ListsStatics modules) : ¬place.IsVacant modules := by
  rcases static with ⟨module, id, field, loaded, found, storage, owner, slotted⟩
  rintro ⟨again, type, other, vacant, loadedToo, declared, position, foundOther, noStorage⟩
  cases loaded.symm.trans loadedToo
  rw [← owner] at declared
  have listed : Store.Listed module field.owner type id :=
    ⟨declared, lists _ module id field type loaded found storage declared, field, found, storage,
      rfl⟩
  rcases listed.slotOf with ⟨slot, slottedToo, positionToo⟩
  cases slotted.symm.trans slottedToo
  cases position.symm.trans positionToo
  cases found.symm.trans foundOther
  rw [storage] at noStorage
  cases noStorage

/-- A frame on static members names no place but those of static fields. -/
theorem Frame.OnStatics.overlooks {frame : Frame} (keeps : frame.OnStatics store.modules)
    (passed : AllPassed store.modules) {used : Address → Prop}
    (includes : ∀ place : Address, place.IsStatic store.modules → used place) :
    frame.Overlooks (staticsAt store.modules used) store := by
  refine ⟨keeps.within.widen ?_ includes, ?_⟩
  · exact fun _ static => static
  · intro instruction reference place current names placed
    exact includes place (keeps.address passed current names placed)

namespace Store

variable {handle : ModuleHandle} {id : FieldId} {arguments : List ValueType}

/-- A host is given the places of static fields only. -/
theorem hostAddress_isStatic {place : Address}
    (allowed : store.hostAddress handle id arguments = .ok place) :
    place.IsStatic store.modules := by
  unfold hostAddress at allowed
  rcases bind_eq_ok_iff.mp allowed with ⟨module, loaded, allowed⟩
  split at allowed
  · cases allowed
  · next declared found =>
      split at allowed
      · cases allowed
      · next storage =>
          rcases bind_eq_ok_iff.mp allowed with ⟨⟨⟩, _, allowed⟩
          rcases bind_eq_ok_iff.mp allowed with ⟨slot, slotted, rest⟩
          cases rest
          exact ⟨module, id, declared, module_ok loaded, found, by simpa using storage, rfl,
            slotted⟩

variable {module : Module} {field : FieldDecl}

/-- What a host is told about a field without storage. -/
theorem hostAddress_of_vacant (arguments : List ValueType)
    (loaded : store.modules[handle.position]? = some module)
    (found : module.field? id = some field) (vacant : field.hasStorage = false) :
    store.hostAddress handle id arguments =
      .error (.unknownField (module.fieldName id ++ " has no static storage")) := by
  simp only [hostAddress, Store.module, loaded, ok_bind, found, vacant]
  rfl

end Store

/-! ### What happens on a thread -/

/-- What happens on a thread that is on static members, if nothing is loaded, keeps it there. -/
theorem Happens.onStatics
    (happens : Happens offersStatic limits thread store activations after next)
    (passed : AllPassed store.modules) (within : store.Within (statics store.modules))
    (all : ∀ activation ∈ activations, activation.OnStatics store.modules others) :
    (∃ module handle, store.load module = .ok (after, handle) ∧ next = []) ∨
      Store.OnStatics store.modules store after ∧
        ((∀ target parameters, activations = [] → next = [.call target parameters] →
            target.IsStatic store.modules ∨ others target) →
          ∀ activation ∈ next, activation.OnStatics store.modules others) := by
  have start := Store.OnStatics.begin rfl within
  have steps : (step limits.callDepth thread store activations).Within
      (staticDomain store.modules others store) := step_onStatics passed start all
  cases happens with
  | loads loads => exact .inl ⟨_, _, loads, rfl⟩
  | calls allowed offered =>
      refine .inr ⟨start, fun named => List.forall_mem_singleton.mpr ?_⟩
      exact ⟨named _ _ rfl rfl, offered⟩
  | accesses allowed => exact .inr ⟨start, fun _ => List.forall_mem_singleton.mpr trivial⟩
  | writes allowed offered =>
      exact .inr ⟨start.setSlot (Store.hostAddress_isStatic allowed) offered, fun _ => all⟩
  | issues | collects => exact .inr ⟨⟨rfl, within, fun _ _ _ held => held⟩, fun _ => all⟩
  | steps progress | waits progress =>
      rw [progress] at steps
      exact .inr ⟨steps.1, fun _ activation listed =>
        Activation.onStatics_iff.mpr (steps.2 activation listed)⟩
  | finishes finished =>
      rw [finished] at steps
      exact .inr ⟨steps.1, fun _ => List.forall_mem_nil _⟩

namespace ServedOn

variable {threads : ThreadId → List Activation}

/-- Whatever the host asks for, the threads stay on static members. -/
theorem onStatics (served : ServedOn others limits store threads) :
    AllPassed store.modules ∧ store.Within (statics store.modules) ∧
      ∀ thread, ∀ activation ∈ threads thread, activation.OnStatics store.modules others := by
  induction served with
  | fresh =>
      refine ⟨?_, ?_, fun _ => List.forall_mem_nil _⟩
      · intro position module loaded
        cases loaded
      · intro place value held
        cases held
  | @next store after threads thread activations _ happens calls ih =>
      rcases ih with ⟨passed, within, all⟩
      rcases happens.onStatics passed within (all thread) with
        ⟨module, handle, loads, rfl⟩ | ⟨keeps, reached⟩
      · have passedAfter := passed.load loads
        rcases Store.load_ok loads with ⟨_, rfl, _⟩
        refine ⟨passedAfter, ?_, forall_update (List.forall_mem_nil _) ?_⟩
        · exact fun place value held => offersStatic_push (within place value held) _
        · exact fun thread activation listed => (all thread activation listed).push _
      · rw [keeps.modules_eq]
        exact ⟨passed, keeps.within, forall_update (reached calls) all⟩

/-- The places that are read and written are among any that include those of static fields. -/
theorem usesOnly (served : ServedOn others limits store threads) {used : Address → Prop}
    (includes : ∀ place : Address, place.IsStatic store.modules → used place) :
    UsesOnly used limits store threads := by
  rcases served.onStatics with ⟨passed, within, all⟩
  constructor
  case writes =>
    intro thread after next place value happens unused held
    rcases happens.onStatics passed within (all thread) with
      ⟨module, handle, loads, _⟩ | ⟨keeps, _⟩
    · rcases Store.load_ok loads with ⟨_, rfl, _⟩
      exact held
    · exact keeps.spares place value (fun static => unused (includes place static)) held
  case reads =>
    intro thread other resembles
    have resembles : store.Resembles (staticsAt store.modules used).places other := resembles
    refine step_unseen resembles fun frame listed => ?_
    exact (all thread _ listed).2.overlooks passed includes
  case places =>
    intro handle id arguments place allowed
    exact includes place (Store.hostAddress_isStatic allowed)

/-- Whatever a host asks of the modules that it could load, while it asks to call only static
routines, or some others: the machine executes only static routines, or those others, and neither it
nor the host reads or writes a place that is not a static field's. If the types list their static
fields, these places are not what a type has for a field that is not static or is a literal. -/
theorem only_statics (served : ServedOn others limits store threads) :
    OnlyStatics others limits store threads := by
  rcases served.onStatics with ⟨passed, within, all⟩
  constructor
  case bodies =>
    intro thread frame listed
    exact (all thread _ listed).1
  case fields => exact served.usesOnly fun _ static => static
  case vacant => exact fun lists => served.usesOnly fun _ static => static.not_isVacant lists
  case refuses =>
    intro handle id arguments module field loaded found vacant steps value
    have refused := Store.hostAddress_of_vacant arguments loaded found vacant
    simp only [Store.readField, Store.writeField, Store.useField, refused, and_self]
  case holds => exact within
  case returns =>
    intro thread after result finished
    have ends : (step limits.callDepth thread store (threads thread)).Within
        (staticDomain store.modules others store) :=
      step_onStatics passed (.begin rfl within) (all thread)
    rw [finished] at ends
    exact ends.2

/-- What the steps of a thread lead to, the machine comes to. -/
theorem leads (served : ServedOn others limits store threads) {last : List Activation}
    (steps : Leads limits.callDepth thread store (threads thread) after last) :
    ∃ moved : ThreadId → List Activation, moved thread = last ∧
      ServedOn others limits after moved := by
  generalize here : threads thread = activations at steps
  induction steps generalizing threads with
  | refl => exact ⟨threads, here, served⟩
  | @step store middle _ activations next _ first _ ih =>
      subst here
      refine ih (served.next (.steps first) ?_) (Function.update_self ..)
      intro target parameters idle
      rw [idle] at first
      cases first

end ServedOn

/-! ### A shelf -/

namespace Shelf

/-- Puts a number into the static field. -/
def put : Body :=
  { Body.returning with instructions := #[.loadInt32 7, .storeField ⟨⟨0⟩, .direct⟩, .ret] }

/-- Gives a number. -/
def get : Body :=
  { Body.returning with instructions := #[.loadInt32 7, .ret] }

/-- A module whose type declares a static field and a static routine, and one of each that is not
static. -/
def module : Module where
  name := "app"
  identity := Vector.replicate 16 0
  references := []
  types := #[{ TypeDecl.named "Shelf" with fields := [⟨0⟩, ⟨1⟩], routines := [⟨0⟩, ⟨1⟩] }]
  fields := #[FieldDecl.static "total" .int32,
    { FieldDecl.static "count" .int32 with isStatic := false }]
  routines := #[RoutineDecl.static "Put" .void put,
    { RoutineDecl.static "Get" .int32 get with isStatic := false }]
  topLevel := [⟨0⟩]

def loaded : Store := { Store.empty with modules := #[module] }

def shelf : Instantiation where
  module := ⟨0⟩
  type := ⟨0⟩
  arguments := []

def target (routine : UInt32) : BoundRoutine where
  module := ⟨0⟩
  routine := ⟨routine⟩
  arguments := []

/-- The store while the shelf is initialized, or when it has been. -/
def storeWith (status : Status Trap) : Store :=
  { loaded with storages := [(shelf, { slots := #[.int32 0, .null], status })] }

/-- The execution of one of the routines, at its beginning. -/
def frame (routine : UInt32) : Frame :=
  match Frame.enter 256 1 loaded (target routine) [] with
  | .ok frame => frame
  | .error _ => default

theorem accepted : checkModule module = .ok () := checkModule_ok (by cbv) rfl rfl (by cbv)

theorem loads : Store.empty.load module = .ok (loaded, ⟨0⟩) := by
  simp only [Store.load, accepted]
  rfl

theorem lists : ListsStatics (storeWith .done).modules := by
  intro position module id field type found declared storage owned
  have only : module = Shelf.module := by
    rcases Array.getElem?_eq_some_iff.mp found with ⟨inside, rfl⟩
    have first : position = 0 := Nat.lt_one_iff.mp inside
    subst first
    rfl
  subst only
  have inside : id.index.toNat < 2 := (Array.getElem?_eq_some_iff.mp declared).1
  have either : id = ⟨0⟩ ∨ id = ⟨1⟩ := by
    rcases id with ⟨index⟩
    simp only [FieldId.mk.injEq, ← UInt32.toNat_inj]
    exact Nat.le_one_iff_eq_zero_or_eq_one.mp (Nat.le_of_lt_succ inside)
  rcases either with rfl | rfl <;> cases declared <;> cases owned <;> decide

/-- What the host asks to call is executed when the shelf is initialized. -/
theorem reaches {others : BoundRoutine → Prop} (routine : UInt32)
    (allowed : loaded.hostTarget ⟨0⟩ ⟨routine⟩ [] = .ok (target routine))
    (named : (target routine).IsStatic loaded.modules ∨ others (target routine))
    (starts : step 256 hostThread loaded [.call (target routine) []] =
      .running (storeWith (.running hostThread)) [.initializer shelf, .call (target routine) []])
    (enters : step 256 hostThread (storeWith .done) [.call (target routine) []] =
      .running (storeWith .done) [.body (frame routine)]) :
    ∃ threads, threads hostThread = [.body (frame routine)] ∧
      ServedOn others {} (storeWith .done) threads := by
  have idle : ServedOn others {} loaded (Function.update (fun _ => []) hostThread []) :=
    .next .fresh (.loads loads) nofun
  have called : ServedOn others {} loaded (Function.update (Function.update (fun _ => [])
      hostThread []) hostThread [.call (target routine) []]) := by
    refine idle.next (.calls allowed (List.forall_mem_nil _)) ?_
    intro target parameters _ same
    cases same
    exact named
  have ends : step 256 hostThread (storeWith (.running hostThread))
      [.initializer shelf, .call (target routine) []] =
        .running (storeWith .done) [.call (target routine) []] := rfl
  exact called.leads (.step starts (.step ends (.step enters .refl)))

/-- While a static routine is executed, nothing that happens writes the field that is not static. -/
theorem only_statics_shelf : ∃ threads : ThreadId → List Activation,
    .body (frame 0) ∈ threads hostThread ∧ (target 0).IsStatic (storeWith .done).modules ∧
      (storeWith .done).slot? ⟨shelf, 1⟩ = some .null ∧
        ∀ thread after next,
          Happens offersStatic {} thread (storeWith .done) (threads thread) after next →
            after.slot? ⟨shelf, 1⟩ = some .null := by
  have reached : ∃ threads, threads hostThread = [.body (frame 0)] ∧
      ServedOn (fun _ => False) {} (storeWith .done) threads :=
    reaches 0 rfl (.inl ⟨module, _, rfl, rfl, rfl⟩) rfl rfl
  rcases reached with ⟨threads, here, served⟩
  have only := served.only_statics
  have executes : .body (frame 0) ∈ threads hostThread := here ▸ List.mem_singleton_self _
  have vacant : (⟨shelf, 1⟩ : Address).IsVacant (storeWith .done).modules :=
    ⟨module, _, ⟨1⟩, _, rfl, rfl, rfl, rfl, rfl⟩
  refine ⟨threads, executes, ?_, rfl, ?_⟩
  · exact (only.bodies hostThread (frame 0) executes).resolve_right id
  · intro thread after next happens
    exact (only.vacant lists).writes thread after next _ _ happens (not_not_intro vacant) rfl

/-- A host that hands over nothing has a routine executed that is not static, and is given what it
returns. -/
theorem routine_is_called_without_being_static :
    checkModule module = .ok () ∧ ¬(target 1).IsStatic (storeWith .done).modules ∧
      (∃ threads, threads hostThread = [.body (frame 1)] ∧ (frame 1).executed = target 1 ∧
        ServedOn (fun _ => True) {} (storeWith .done) threads) ∧
      ∃ after, loaded.invoke {} 8 ⟨0⟩ ⟨1⟩ [] [] = some (after, .ok (some (.int32 7))) := by
  refine ⟨accepted, ?_, ?_, _, rfl⟩
  · rintro ⟨module, routine, found, declared, static⟩
    cases found
    cases declared
    cases static
  · have reached : ∃ threads, threads hostThread = [.body (frame 1)] ∧
        ServedOn (fun _ => True) {} (storeWith .done) threads :=
      reaches 1 rfl (.inr trivial) rfl rfl
    rcases reached with ⟨threads, here, served⟩
    exact ⟨threads, here, rfl, served⟩

end Shelf

end Rekindle.Machine
