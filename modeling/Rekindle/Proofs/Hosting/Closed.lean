import Rekindle.Proofs.Hosting.Fitting
import Rekindle.Proofs.Hosting.Serving

/-!
# Closed instantiations

While the host hands over only what fits the loaded modules, everything fits that a machine comes to:
the instantiations that have storage, the routines whose bodies are executed, and every routine that
a value leads to. No code is ever executed for open arguments or for the wrong number of arguments.
-/

namespace Rekindle.Machine

open Fallible Validity

/-- A store with some loaded modules in which all storage is of instantiations that fit, and all
values in it lead only to what fits. -/
structure Store.Fits (modules : Array Module) (store : Store) : Prop where
  modules_eq : store.modules = modules
  keys : ∀ entry ∈ store.storages, entry.1.Fits modules
  slots : ∀ entry ∈ store.storages, ∀ value ∈ entry.2.slots.toList,
    value.Within (fitting modules)

/-- A part of a stack that names and holds only what fits. -/
def Activation.Fits (modules : Array Module) : Activation → Prop
  | .body frame => frame.Fits modules
  | .initializer instantiation | .access instantiation => instantiation.Fits modules
  | .targets listed => ∀ target ∈ listed, target.Fits modules
  | .call target parameters =>
    target.Fits modules ∧ ∀ value ∈ parameters, value.Within (fitting modules)

/-- What a step leads to that leads only to what fits. -/
def Progress.Fits (modules : Array Module) : Progress → Prop
  | .running store activations | .blocked store activations =>
    store.Fits modules ∧ ∀ activation ∈ activations, activation.Fits modules
  | .finished store _ => store.Fits modules

variable {modules : Array Module} {limit : Nat} {thread : ThreadId} {store after : Store}
  {instantiation : Instantiation} {activations : List Activation}

/-! ### Stores -/

namespace Store

theorem mem_changeStorage {change : Storage → Storage} {entry : Instantiation × Storage}
    {storages : List (Instantiation × Storage)}
    (listed : entry ∈ changeStorage instantiation change storages) :
    entry ∈ storages ∨ ∃ before ∈ storages, entry = (before.1, change before.2) := by
  induction storages with
  | nil => exact .inl listed
  | cons first others ih =>
      rw [changeStorage] at listed
      split at listed
      · rcases List.mem_cons.mp listed with rfl | later
        · exact .inr ⟨first, List.mem_cons_self, rfl⟩
        · exact .inl (List.mem_cons_of_mem _ later)
      · rcases List.mem_cons.mp listed with rfl | later
        · exact .inl List.mem_cons_self
        · rcases ih later with same | ⟨before, member, rfl⟩
          · exact .inl (List.mem_cons_of_mem _ same)
          · exact .inr ⟨before, List.mem_cons_of_mem _ member, rfl⟩

namespace Fits

theorem within (fits : store.Fits modules) : store.Within (fitting modules) := by
  intro place value found
  rcases Option.bind_eq_some_iff.mp found with ⟨storage, present, held⟩
  rcases Option.map_eq_some_iff.mp present with ⟨entry, looked, rfl⟩
  exact fits.slots entry (List.mem_of_find?_eq_some looked) value
    (Array.mem_toList_iff.mpr (Array.mem_of_getElem? held))

theorem update (fits : store.Fits modules) (instantiation : Instantiation)
    {change : Storage → Storage}
    (keeps : ∀ storage, (∀ value ∈ storage.slots.toList, value.Within (fitting modules)) →
      ∀ value ∈ (change storage).slots.toList, value.Within (fitting modules)) :
    (store.updateStorage instantiation change).Fits modules := by
  refine ⟨fits.modules_eq, ?_, ?_⟩
  · intro entry listed
    rcases mem_changeStorage listed with same | ⟨before, member, rfl⟩
    · exact fits.keys entry same
    · exact fits.keys before member
  · intro entry listed
    rcases mem_changeStorage listed with same | ⟨before, member, rfl⟩
    · exact fits.slots entry same
    · exact keeps before.2 (fits.slots before member)

theorem withStatus (fits : store.Fits modules) (instantiation : Instantiation)
    (status : Status Trap) :
    (store.updateStorage instantiation fun storage => { storage with status }).Fits modules :=
  fits.update instantiation fun _ all => all

theorem demand (fits : store.Fits modules) (known : instantiation.Fits modules) {storage : Storage}
    (demanded : store.demand instantiation = .ok (after, storage)) : after.Fits modules := by
  rcases demand_ok demanded with ⟨_, rfl⟩ | ⟨_, module, type, _, _, rfl, rfl⟩
  · exact fits
  · refine ⟨fits.modules_eq, List.forall_mem_cons.mpr ⟨known, fits.keys⟩,
      List.forall_mem_cons.mpr ⟨?_, fits.slots⟩⟩
    intro value listed
    simp only [freshStorage, List.mem_map] at listed
    rcases listed with ⟨field, _, rfl⟩
    exact freshSlot_within module _ field

theorem ask (fits : store.Fits modules) (known : instantiation.Fits modules) {ticket : Ticket Trap}
    (asked : store.ask thread instantiation = .ok (after, ticket)) : after.Fits modules := by
  unfold Store.ask at asked
  rcases bind_eq_ok_iff.mp asked with ⟨⟨grown, storage⟩, demanded, rest⟩
  cases rest
  have grownFits : grown.Fits modules := fits.demand known demanded
  have changed := grownFits.withStatus instantiation
    (storage.status.ask grown.waits thread instantiation).2.1
  exact ⟨changed.modules_eq, changed.keys, changed.slots⟩

theorem setSlot (fits : store.Fits modules) (place : Address) {value : Value}
    (known : value.Within (fitting modules)) : (store.setSlot place value).Fits modules := by
  apply fits.update
  intro storage all held listed
  simp only [Array.toList_setIfInBounds] at listed
  rcases List.mem_or_eq_of_mem_set listed with before | rfl
  · exact all held before
  · exact known

theorem publish (fits : store.Fits modules) (instantiation : Instantiation)
    (outcome : Except Trap Unit) : (store.publish instantiation outcome).Fits modules := by
  have changed := fits.withStatus instantiation (.ofOutcome outcome)
  exact ⟨changed.modules_eq, changed.keys, changed.slots⟩

end Fits

end Store

theorem Store.Fits.touched (fits : store.Fits modules)
    (touched : store.Touched (fitting modules) after) : after.Fits modules := by
  cases touched with
  | same => exact fits
  | wrote _ within => exact fits.setSlot _ within
  | issued => exact ⟨fits.modules_eq, fits.keys, fits.slots⟩

/-! ### Steps -/

/-- Everything that fits some modules. -/
def fitDomain (modules : Array Module) : Domain where
  scope := fitting modules
  stores := Store.Fits modules
  frames := Frame.Fits modules
  calls := BoundRoutine.Fits modules
  asks := Instantiation.Fits modules

theorem fitDomain_isClosed (passed : AllPassed modules) : (fitDomain modules).IsClosed where
  within fits := fits.within
  asked fits known asked := fits.ask known asked
  published instantiation outcome fits := fits.publish instantiation outcome
  touched fits touched := fits.touched touched
  framesWithin known := known.within
  stays known stays := known.stays stays
  starts fits called loaded found hasBody within :=
    ⟨called, ⟨_, _, fits.modules_eq ▸ loaded, found, hasBody⟩, within⟩
  owned fits called owned :=
    fits.modules_eq ▸ (fits_of_ownerOf owned).mp (fits.modules_eq ▸ called)
  initializes fits known found :=
    fits.modules_eq ▸ (fits_of_ownerOf (ownerOf_initializer (fits.modules_eq ▸ passed) found)).mpr
      (fits.modules_eq ▸ known)
  leads known := known
  binds fits known current names :=
    fits.modules_eq ▸ Frame.Fits.bound (fits.modules_eq ▸ known) (fits.modules_eq ▸ passed)
      current names
  places fits known current names located :=
    ⟨fits.modules_eq ▸ Frame.Fits.address (fits.modules_eq ▸ known) (fits.modules_eq ▸ passed)
      current names located, trivial⟩

theorem Activation.fits_iff {activation : Activation} :
    activation.Fits modules ↔ activation.Within (fitDomain modules) := by
  cases activation <;> exact Iff.rfl

/-- A step leads only to what fits. -/
theorem step_fits (passed : AllPassed modules) (fits : store.Fits modules)
    (all : ∀ activation ∈ activations, activation.Fits modules) :
    (step limit thread store activations).Fits modules := by
  have stepped : (step limit thread store activations).Within (fitDomain modules) :=
    step_within (fitDomain_isClosed passed) fits fun activation listed =>
      Activation.fits_iff.mp (all activation listed)
  rcases progress : step limit thread store activations with
    ⟨after, next⟩ | ⟨after, next⟩ | ⟨after, ended⟩
  · rw [progress] at stepped
    exact ⟨stepped.1, fun activation listed =>
      Activation.fits_iff.mpr (stepped.2 activation listed)⟩
  · rw [progress] at stepped
    exact ⟨stepped.1, fun activation listed =>
      Activation.fits_iff.mpr (stepped.2 activation listed)⟩
  · rw [progress] at stepped
    exact stepped.1

/-! ### Serving a host -/

/-- Loaded modules that passed the check, and a store of them in which everything fits. -/
structure Store.Sound (store : Store) : Prop where
  passed : AllPassed store.modules
  fits : store.Fits store.modules

theorem Store.sound_empty : Store.empty.Sound := by
  refine ⟨?_, rfl, ?_, ?_⟩
  · intro position module loaded
    cases loaded
  · intro entry listed
    cases listed
  · intro entry listed
    cases listed

theorem Activation.Fits.push {activation : Activation} (fits : activation.Fits modules)
    (added : Module) : activation.Fits (modules.push added) := by
  cases activation with
  | body frame => exact Frame.Fits.push fits added
  | initializer instantiation | access instantiation => exact Instantiation.Fits.push fits added
  | targets listed => exact fun target member => (fits target member).push added
  | call target parameters =>
      exact ⟨fits.1.push added, fun value listed => (fits.2 value listed).push added⟩

namespace Store.Sound

theorem load (sound : store.Sound) {module : Module} {handle : ModuleHandle}
    (loads : store.load module = .ok (after, handle)) : after.Sound := by
  refine ⟨sound.passed.load loads, ?_⟩
  rcases load_ok loads with ⟨_, rfl, _⟩
  refine ⟨rfl, ?_, ?_⟩
  · exact fun entry listed => (sound.fits.keys entry listed).push module
  · exact fun entry listed value held => (sound.fits.slots entry listed value held).push module

theorem of_fits (sound : store.Sound) (fits : after.Fits store.modules) : after.Sound :=
  ⟨fits.modules_eq ▸ sound.passed, fits.modules_eq ▸ fits⟩

end Store.Sound

/-- What a host may hand over: nothing that leads to a routine that does not fit. -/
def offersFitting (modules : Array Module) (value : Value) : Prop :=
  value.Within (fitting modules)

variable {limits : Limits} {next : List Activation}

/-- Whatever happens on a thread, everything fits, and what is going on elsewhere goes on to. -/
theorem Happens.fits (happens : Happens offersFitting limits thread store activations after next)
    (sound : store.Sound) (all : ∀ activation ∈ activations, activation.Fits store.modules) :
    after.Sound ∧ (∀ activation ∈ next, activation.Fits after.modules) ∧
      ∀ activation : Activation, activation.Fits store.modules →
        activation.Fits after.modules := by
  have steps : (step limits.callDepth thread store activations).Fits store.modules :=
    step_fits sound.passed sound.fits all
  cases happens with
  | loads loads =>
      refine ⟨sound.load loads, List.forall_mem_nil _, ?_⟩
      rcases Store.load_ok loads with ⟨_, rfl, _⟩
      exact fun activation fits => fits.push _
  | calls allowed offered =>
      refine ⟨sound, List.forall_mem_singleton.mpr ?_, fun _ fits => fits⟩
      exact ⟨Store.hostTarget_fits allowed, offered⟩
  | accesses allowed =>
      refine ⟨sound, List.forall_mem_singleton.mpr ?_, fun _ fits => fits⟩
      exact Store.hostAddress_fits allowed
  | writes allowed offered =>
      exact ⟨sound.of_fits (sound.fits.setSlot _ offered), all, fun _ fits => fits⟩
  | issues | collects =>
      exact ⟨⟨sound.passed, rfl, sound.fits.keys, sound.fits.slots⟩, all, fun _ fits => fits⟩
  | steps running =>
      rw [running] at steps
      have modules : after.modules = store.modules := steps.1.modules_eq
      refine ⟨sound.of_fits steps.1, ?_⟩
      rw [modules]
      exact ⟨steps.2, fun _ fits => fits⟩
  | waits blocked =>
      rw [blocked] at steps
      have modules : after.modules = store.modules := steps.1.modules_eq
      refine ⟨sound.of_fits steps.1, ?_⟩
      rw [modules]
      exact ⟨steps.2, fun _ fits => fits⟩
  | finishes finished =>
      rw [finished] at steps
      have fitsAfter : after.Fits store.modules := steps
      refine ⟨sound.of_fits fitsAfter, List.forall_mem_nil _, ?_⟩
      rw [fitsAfter.modules_eq]
      exact fun _ fits => fits

theorem Served.sound {threads : ThreadId → List Activation}
    (served : Served offersFitting limits store threads) :
    store.Sound ∧ ∀ thread, ∀ activation ∈ threads thread, activation.Fits store.modules := by
  induction served with
  | fresh => exact ⟨Store.sound_empty, fun _ => List.forall_mem_nil _⟩
  | @next store after threads thread activations _ happens ih =>
      rcases happens.fits ih.1 (ih.2 thread) with ⟨sound, fits, elsewhere⟩
      refine ⟨sound, forall_update fits ?_⟩
      -- The other threads go on with what they had, which fits even if a module was loaded.
      exact fun other activation listed => elsewhere activation (ih.2 other activation listed)

/-- Whatever a host asks of the modules that it could load, while it hands over only callbacks and
routines that fit: every instantiation that has storage is one of a loaded type under as many closed
arguments as the type has parameters, every body in execution is that of a routine under closed
arguments of its type, and so is every routine that a slot, a parameter, a local or an operand leads
to. -/
theorem Served.everything_fits {threads : ThreadId → List Activation}
    (served : Served offersFitting limits store threads) :
    (∀ entry ∈ store.storages, entry.1.Fits store.modules ∧
      ∀ value ∈ entry.2.slots.toList, value.Within (fitting store.modules)) ∧
      ∀ thread, ∀ activation ∈ threads thread, activation.Fits store.modules := by
  rcases served.sound with ⟨sound, all⟩
  exact ⟨fun entry listed => ⟨sound.fits.keys entry listed, sound.fits.slots entry listed⟩, all⟩

/-! ### A box that leads to boxes of itself -/

namespace Box

/-- Puts the same routine of the box of boxes into the field. -/
def link : Body where
  zeroesLocals := false
  locals := []
  instructions := #[.loadRoutine ⟨⟨0⟩, .instantiated [.defined ⟨0⟩ [.parameter 0]]⟩,
    .storeField ⟨⟨0⟩, .instantiated [.parameter 0]⟩, .ret]
  handlers := []

def linking : RoutineDecl :=
  RoutineDecl.static "link" .void link

def module : Module where
  name := "app"
  identity := Vector.replicate 16 0
  references := []
  types := #[{ TypeDecl.named "Box" with
    parameters := ["T"], fields := [⟨0⟩], routines := [⟨0⟩] }]
  fields := #[FieldDecl.static "next" .object]
  routines := #[linking]
  topLevel := [⟨0⟩]

def loaded : Store := { Store.empty with modules := #[module] }

/-- The store after the box of texts was linked. -/
def linked : Store := ((Request.invoke ⟨0⟩ ⟨0⟩ [.string] []).perform {} 8 loaded).getD .empty

/-- What the box of texts leads to. -/
def boxes : BoundRoutine where
  module := ⟨0⟩
  routine := ⟨0⟩
  arguments := [.defined ⟨0⟩ [.string]]

theorem routines : module.routineIds.forM (checkRoutine module) = .ok () := by
  have heights : ∀ context, stackHeights module context linking link =
      .ok #[some 0, some 1, some 0] := by
    intro context
    cbv
  have checked : checkBody module (module.routineName ⟨0⟩) 1 linking link = .ok () := by
    simp only [checkBody, heights]
    rfl
  show (checkBody module (module.routineName ⟨0⟩) 1 linking link >>= fun _ => .ok ()) = .ok ()
  rw [checked]
  rfl

theorem loads : Store.empty.load module = .ok (loaded, ⟨0⟩) := by
  have accepted : checkModule module = .ok () := checkModule_ok (by cbv) rfl rfl routines
  simp only [Store.load, accepted]
  rfl

theorem served : Served offersFitting {} linked (Function.update (fun _ => []) hostThread []) := by
  have performs : (Request.invoke ⟨0⟩ ⟨0⟩ [.string] []).perform {} 8 loaded = some linked := rfl
  have first : Served offersFitting {} loaded fun _ => [] := by
    have comes : ComesTo offersFitting {} hostThread ⟨.empty, []⟩ ⟨loaded, []⟩ :=
      .single (.loads loads)
    have idle := Served.fresh.comesTo comes
    rwa [Function.update_eq_self] at idle
  have comes : ComesTo offersFitting {} hostThread ⟨loaded, []⟩ ⟨linked, []⟩ :=
    (Request.performed performs).comesTo (List.forall_mem_nil _)
  exact first.comesTo comes

/-- The box of texts leads to a routine of the box of boxes of texts, whose argument is closed. -/
theorem everything_fits_box :
    linked.storages = [(⟨⟨0⟩, ⟨0⟩, [.string]⟩, ⟨#[.pointer boxes], .done⟩)] ∧
      boxes.Fits linked.modules := by
  have storages : linked.storages =
      [(⟨⟨0⟩, ⟨0⟩, [.string]⟩, ⟨#[.pointer boxes], .done⟩)] := rfl
  refine ⟨storages, ?_⟩
  have listed := storages ▸ List.mem_singleton_self _
  exact (served.everything_fits.1 _ listed).2 (.pointer boxes) (by simp)

end Box

end Rekindle.Machine
