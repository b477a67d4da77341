import Rekindle.Proofs.Loading.Resetting
import Rekindle.Proofs.Machine.Active
import Rekindle.Proofs.Machine.Changing
import Rekindle.Proofs.Machine.Statuses

/-!
# Static fields of a host

A host reads and writes the static fields of instantiations that are initialized. Fields of
different instantiations are at different places, and so are different fields of one instantiation
that their type lists, so writing one of them leaves the others as they are. A field that its type
does not list has no place of its own and goes to the first slot, although the check of modules lets
it pass.
-/

namespace Rekindle.Machine

open Fallible

namespace Store.Rests

variable {store after : Store}

theorem slot?_eq (rests : store.Rests after) (place : Address) :
    after.slot? place = store.slot? place := by
  simp only [slot?, rests.storages]

theorem isInitialized_eq (rests : store.Rests after) (instantiation : Instantiation) :
    after.isInitialized instantiation = store.isInitialized instantiation := by
  simp only [isInitialized, rests.storages]

end Store.Rests

/-- A static field as a host names it. -/
structure StaticField where
  module : ModuleHandle
  field : FieldId
  /-- The arguments of the type that declares the field. -/
  arguments : List ValueType
deriving DecidableEq, Repr

namespace StaticField

def read (field : StaticField) (limits : Limits) (steps : Nat) (store : Store) : Answer Value :=
  store.readField limits steps field.module field.field field.arguments

def write (field : StaticField) (limits : Limits) (steps : Nat) (store : Store) (value : Value) :
    Answer Unit :=
  store.writeField limits steps field.module field.field field.arguments value

/-- A field with storage, under a closed argument for each parameter of the type that declares
it. -/
structure Names (field : StaticField) (store : Store) (module : Module) (declared : FieldDecl)
    (type : TypeDecl) : Prop where
  loaded : store.modules[field.module.position]? = some module
  found : module.field? field.field = some declared
  hasStorage : declared.hasStorage = true
  owned : module.type? declared.owner = some type
  count : field.arguments.length = type.arity
  closed : ∀ argument ∈ field.arguments, argument.isClosed = true

/-- The instantiation whose storage holds a field. -/
def instantiation (field : StaticField) (declared : FieldDecl) : Instantiation where
  module := field.module
  type := declared.owner
  arguments := field.arguments

/-- A field whose instantiation is initialized. -/
def Ready (field : StaticField) (store : Store) : Prop :=
  ∃ module declared type, field.Names store module declared type ∧
    store.isInitialized (field.instantiation declared) = true

/-- Fields that belong to one instantiation. -/
def Shares (field other : StaticField) (store : Store) : Prop :=
  ∃ module declared type otherModule others otherType,
    field.Names store module declared type ∧ other.Names store otherModule others otherType ∧
      other.instantiation others = field.instantiation declared

/-- A field that the type that declares it lists. -/
def IsListed (field : StaticField) (store : Store) : Prop :=
  ∀ module declared type, field.Names store module declared type → field.field ∈ type.fields

/-- A field whose type lists some field, so that there is a slot where a host looks for it. -/
def HasSlot (field : StaticField) (store : Store) : Prop :=
  ∀ module declared type, field.Names store module declared type → type.fields ≠ []

theorem IsListed.hasSlot {field : StaticField} {store : Store} (listed : field.IsListed store) :
    field.HasSlot store :=
  fun module declared type names => List.ne_nil_of_mem (listed module declared type names)

theorem Names.isListed {field : StaticField} {store : Store} {module : Module}
    {declared : FieldDecl} {type : TypeDecl} (names : field.Names store module declared type)
    (member : field.field ∈ type.fields) : field.IsListed store := by
  intro otherModule others otherType again
  cases names.loaded.symm.trans again.loaded
  cases names.found.symm.trans again.found
  cases names.owned.symm.trans again.owned
  exact member

/-- A field of an initialized instantiation and the slot in which a host looks for it. -/
structure Placed (field : StaticField) (store : Store) (module : Module) (declared : FieldDecl)
    (type : TypeDecl) (slot : Nat) : Prop where
  names : field.Names store module declared type
  slotted : Store.slotOf module field.field = .ok slot
  initialized : store.isInitialized (field.instantiation declared) = true

/-- What a host that reads a field is told about its slot. -/
def answer (field : StaticField) : Option Value → Except Trap Value
  | some held => .ok held
  | none => .error (.unknownField field.field.text)

variable {field other : StaticField} {store after : Store} {module : Module}
  {declared : FieldDecl} {type : TypeDecl} {slot : Nat} {value : Value}

/-! ### Places of fields -/

theorem Names.hostAddress_eq (names : field.Names store module declared type)
    (slotted : Store.slotOf module field.field = .ok slot) :
    store.hostAddress field.module field.field field.arguments =
      .ok ⟨field.instantiation declared, slot⟩ := by
  have allClosed : (field.arguments.find? fun argument => !argument.isClosed) = none := by
    rw [List.find?_eq_none]
    intro argument listed
    simp [names.closed argument listed]
  have allowed : Store.checkArguments module declared.owner field.arguments
      (module.fieldName field.field) = .ok () := by
    simp only [Store.checkArguments, names.owned, names.count, ne_eq, not_true, if_false, allClosed]
  simp only [Store.hostAddress, Store.module, names.loaded, names.found, names.hasStorage, allowed,
    slotted, ok_bind]
  rfl

theorem Ready.placed (ready : field.Ready store) :
    ∃ module declared type slot, field.Placed store module declared type slot := by
  rcases ready with ⟨module, declared, type, names, initialized⟩
  have slotted : Store.slotOf module field.field =
      .ok ((Store.lastPosition field.field type.fields).getD 0) := by
    simp only [Store.slotOf, names.found, names.owned]
  exact ⟨module, declared, type, _, names, slotted, initialized⟩

namespace Placed

variable (placed : field.Placed store module declared type slot)
include placed

/-- A listed field is looked for in a slot that its type lists it for. -/
theorem position (listed : field.IsListed store) : type.fields[slot]? = some field.field := by
  have names := placed.names
  have inList : Store.Listed module declared.owner type field.field :=
    ⟨names.owned, listed module declared type names, declared, names.found, names.hasStorage, rfl⟩
  rcases inList.slotOf with ⟨_, slotted, position⟩
  cases placed.slotted.symm.trans slotted
  exact position

theorem slot_lt (hasSlot : field.HasSlot store) : slot < type.fields.length := by
  have slotted := placed.slotted
  simp only [Store.slotOf, placed.names.found, placed.names.owned, Except.ok.injEq] at slotted
  subst slotted
  rcases found : Store.lastPosition field.field type.fields with _ | position
  · exact List.length_pos_iff.mpr (hasSlot module declared type placed.names)
  · exact (List.getElem?_eq_some_iff.mp (Store.getElem?_of_lastPosition found)).1

theorem exists_held (occurs : store.Occurs) (hasSlot : field.HasSlot store) :
    ∃ held, store.slot? ⟨field.instantiation declared, slot⟩ = some held := by
  rcases Option.map_eq_some_iff.mp (Store.isInitialized_iff.mp placed.initialized) with
    ⟨storage, present, _⟩
  rcases occurs.formed _ storage present with ⟨again, ownType, loaded, owned, size⟩
  cases placed.names.loaded.symm.trans loaded
  cases placed.names.owned.symm.trans owned
  have inside : slot < storage.slots.size := size ▸ placed.slot_lt hasSlot
  refine ⟨storage.slots[slot], ?_⟩
  simp only [Store.slot?, present, Option.bind_some, Array.getElem?_eq_getElem inside]

/-- Where a field is found depends on the loaded modules only. -/
theorem transfer (modules : after.modules = store.modules)
    (initialized : ∀ instantiation,
      after.isInitialized instantiation = store.isInitialized instantiation) :
    field.Placed after module declared type slot where
  names := { placed.names with loaded := modules ▸ placed.names.loaded }
  slotted := placed.slotted
  initialized := (initialized _).trans placed.initialized

end Placed

/-- Fields of one instantiation that are listed for one slot are the same field. -/
theorem Placed.eq_of_place {otherModule : Module} {others : FieldDecl} {otherType : TypeDecl}
    (placed : field.Placed store module declared type slot)
    (otherPlaced : other.Placed store otherModule others otherType slot)
    (listed : field.IsListed store) (otherListed : other.IsListed store)
    (same : other.instantiation others = field.instantiation declared) : other = field := by
  have position := placed.position listed
  have otherPosition := otherPlaced.position otherListed
  have loaded := placed.names.loaded
  have owned := placed.names.owned
  rcases field with ⟨handle, id, arguments⟩
  rcases other with ⟨otherHandle, otherId, otherArguments⟩
  simp only [instantiation, Instantiation.mk.injEq] at same
  rcases same with ⟨rfl, owner, rfl⟩
  cases loaded.symm.trans otherPlaced.names.loaded
  cases owned.symm.trans (owner ▸ otherPlaced.names.owned)
  cases position.symm.trans otherPosition
  rfl

/-! ### Reading and writing -/

/-- A host need not wait for an instantiation that is initialized. -/
theorem run_access {instantiation : Instantiation}
    (initialized : store.isInitialized instantiation = true) (limit steps : Nat) :
    ∃ ready, store.Rests ready ∧
      run limit hostThread (steps + 1) store [.access instantiation] = some (ready, .ok none) := by
  have active : store.IsActive hostThread instantiation := by
    rcases Option.map_eq_some_iff.mp (Store.isInitialized_iff.mp initialized) with
      ⟨storage, present, done⟩
    refine ⟨storage, present, ?_⟩
    rw [done]
    trivial
  rcases active.acquire limit with ⟨ready, rests, acquires⟩
  refine ⟨ready, rests, ?_⟩
  simp only [run, step, attempt, acquires, complete, Attempt.settle]

/-- A field is read as what its slot holds. -/
theorem Placed.read (placed : field.Placed store module declared type slot) (limits : Limits)
    (steps : Nat) :
    ∃ ready, field.read limits (steps + 1) store =
      some (ready, field.answer (store.slot? ⟨field.instantiation declared, slot⟩)) := by
  rcases run_access placed.initialized limits.callDepth steps with ⟨ready, rests, runs⟩
  refine ⟨ready, ?_⟩
  simp only [StaticField.read, Store.readField, Store.useField,
    placed.names.hostAddress_eq placed.slotted, runs, rests.slot?_eq]
  rcases store.slot? ⟨field.instantiation declared, slot⟩ with _ | held <;> rfl

/-- Writing a field changes nothing but its slot, which holds the value if there is such a slot. -/
theorem Placed.write (placed : field.Placed store module declared type slot) (limits : Limits)
    (steps : Nat) (value : Value) :
    ∃ after written, field.write limits (steps + 1) store value = some (after, written) ∧
      after.modules = store.modules ∧
      (∀ instantiation, after.isInitialized instantiation = store.isInitialized instantiation) ∧
      (∀ place, place ≠ ⟨field.instantiation declared, slot⟩ →
        after.slot? place = store.slot? place) ∧
      ∀ held, store.slot? ⟨field.instantiation declared, slot⟩ = some held →
        written = .ok () ∧ after.slot? ⟨field.instantiation declared, slot⟩ = some value := by
  rcases run_access placed.initialized limits.callDepth steps with ⟨ready, rests, runs⟩
  simp only [StaticField.write, Store.writeField, Store.useField,
    placed.names.hostAddress_eq placed.slotted, runs, rests.slot?_eq]
  rcases present : store.slot? ⟨field.instantiation declared, slot⟩ with _ | held
  · exact ⟨ready, _, rfl, rests.modules_eq, rests.isInitialized_eq, fun place _ => rests.slot?_eq place,
      nofun⟩
  · refine ⟨_, _, rfl, rests.modules_eq, ?_, ?_, ?_⟩
    · intro instantiation
      rw [← rests.isInitialized_eq, Bool.eq_iff_iff, Store.isInitialized_iff,
        Store.isInitialized_iff, Store.status?_setSlot]
    · intro place apart
      rw [Store.slot?_setSlot, if_neg apart, rests.slot?_eq]
    · intro _ _
      rw [Store.slot?_setSlot, if_pos rfl, rests.slot?_eq, present]
      exact ⟨rfl, rfl⟩

/-- Writing a field of an initialized instantiation whose type lists some field succeeds, and
reading it afterwards gives what was written. Reading any field of another instantiation gives what
it gave before, and so does reading another field of the same one if both fields are listed. -/
theorem write_changes_one_field (occurs : store.Occurs) (ready : field.Ready store)
    (limits : Limits) (steps : Nat) (value : Value) :
    ∃ after written, field.write limits (steps + 1) store value = some (after, written) ∧
      (field.HasSlot store → written = .ok () ∧
        ∃ last, field.read limits (steps + 1) after = some (last, .ok value)) ∧
      ∀ other : StaticField, other.Ready store → other ≠ field →
        (field.Shares other store → field.IsListed store ∧ other.IsListed store) →
          ∃ told before last, other.read limits (steps + 1) store = some (before, told) ∧
            other.read limits (steps + 1) after = some (last, told) ∧
              (other.HasSlot store → ∃ held, told = .ok held) := by
  rcases ready.placed with ⟨module, declared, type, slot, placed⟩
  rcases placed.write limits steps value with
    ⟨after, written, writes, modules, initialized, elsewhere, succeeds⟩
  refine ⟨after, written, writes, ?_, ?_⟩
  · intro hasSlot
    rcases placed.exists_held occurs hasSlot with ⟨held, present⟩
    rcases succeeds held present with ⟨ok, holds⟩
    rcases (placed.transfer modules initialized).read limits steps with ⟨last, reads⟩
    rw [holds] at reads
    exact ⟨ok, last, reads⟩
  · intro other otherReady different listed
    rcases otherReady.placed with ⟨otherModule, others, otherType, otherSlot, otherPlaced⟩
    -- In one slot of one instantiation, both fields are listed, which makes them one.
    have apart : (⟨other.instantiation others, otherSlot⟩ : Address) ≠
        ⟨field.instantiation declared, slot⟩ := by
      intro same
      simp only [Address.mk.injEq] at same
      rcases same with ⟨sameInstantiation, rfl⟩
      rcases listed ⟨module, declared, type, otherModule, others, otherType, placed.names,
        otherPlaced.names, sameInstantiation⟩ with ⟨fieldListed, otherListed⟩
      exact different (placed.eq_of_place otherPlaced fieldListed otherListed sameInstantiation)
    rcases otherPlaced.read limits steps with ⟨before, readsBefore⟩
    rcases (otherPlaced.transfer modules initialized).read limits steps with ⟨last, readsAfter⟩
    rw [elsewhere _ apart] at readsAfter
    refine ⟨_, before, last, readsBefore, readsAfter, ?_⟩
    intro hasSlot
    rcases otherPlaced.exists_held occurs hasSlot with ⟨held, present⟩
    exact ⟨held, by rw [present, answer]⟩

end StaticField

/-! ### A type of two fields -/

namespace Pair

/-- A generic type that lists some fields. -/
def type (listed : List FieldId) : TypeDecl :=
  { TypeDecl.named "Pair" with parameters := ["T"], fields := listed }

/-- A module with a type that declares two fields. -/
def module (listed : List FieldId) : Module where
  name := "app"
  identity := Vector.replicate 16 0
  references := []
  types := #[type listed]
  fields := #[FieldDecl.static "first" .int32, FieldDecl.static "second" .int32]
  routines := #[]
  topLevel := [⟨0⟩]

def loaded (listed : List FieldId) : Store := { Store.empty with modules := #[module listed] }

/-- The store after the pair of texts was asked for. -/
def store (listed : List FieldId) : Store :=
  ((run 256 hostThread 3 (loaded listed) [.access ⟨⟨0⟩, ⟨0⟩, [.string]⟩]).map (·.1)).getD .empty

def first : StaticField where
  module := ⟨0⟩
  field := ⟨0⟩
  arguments := [.string]

def second : StaticField where
  module := ⟨0⟩
  field := ⟨1⟩
  arguments := [.string]

theorem loads {listed : List FieldId} (passes : Validity.checkModule (module listed) = .ok ()) :
    Store.empty.load (module listed) = .ok (loaded listed, ⟨0⟩) := by
  simp only [Store.load, passes]
  rfl

theorem occurs {listed : List FieldId} (passes : Validity.checkModule (module listed) = .ok ()) :
    (store listed).Occurs := by
  have runs : run 256 hostThread 3 (loaded listed) [.access ⟨⟨0⟩, ⟨0⟩, [.string]⟩] =
      some (store listed, .ok none) := rfl
  exact (Store.Occurs.loaded .fresh (loads passes)).run runs

theorem first_names (listed : List FieldId) :
    first.Names (store listed) (module listed) (.static "first" .int32) (type listed) :=
  ⟨rfl, rfl, rfl, rfl, rfl, by decide⟩

theorem second_names (listed : List FieldId) :
    second.Names (store listed) (module listed) (.static "second" .int32) (type listed) :=
  ⟨rfl, rfl, rfl, rfl, rfl, by decide⟩

theorem first_ready (listed : List FieldId) : first.Ready (store listed) :=
  ⟨_, _, _, first_names listed, rfl⟩

theorem second_ready (listed : List FieldId) : second.Ready (store listed) :=
  ⟨_, _, _, second_names listed, rfl⟩

/-- Where both fields of the pair are listed, writing the first one leaves the second one. -/
theorem write_changes_one_field_pair :
    ∃ after again last, first.write {} 1 (store [⟨0⟩, ⟨1⟩]) (.int32 1) = some (after, .ok ()) ∧
      first.read {} 1 after = some (again, .ok (.int32 1)) ∧
      second.read {} 1 after = some (last, .ok (.int32 0)) := by
  have occurs : (store [⟨0⟩, ⟨1⟩]).Occurs := occurs rfl
  have firstListed := (first_names [⟨0⟩, ⟨1⟩]).isListed (by decide)
  have secondListed := (second_names [⟨0⟩, ⟨1⟩]).isListed (by decide)
  rcases StaticField.write_changes_one_field occurs (first_ready _) {} 0 (.int32 1) with
    ⟨after, written, writes, succeeds, others⟩
  rcases succeeds firstListed.hasSlot with ⟨rfl, again, reads⟩
  rcases others second (second_ready _) (by decide) fun _ => ⟨firstListed, secondListed⟩ with
    ⟨told, before, last, readsBefore, readsAfter, _⟩
  refine ⟨after, again, last, writes, reads, ?_⟩
  cases readsBefore
  exact readsAfter

/-- A module that lists the first field only passes the check, and writing the second field changes
the first one. -/
theorem unlisted_field_overwrites :
    Validity.checkModule (module [⟨0⟩]) = .ok () ∧ (store [⟨0⟩]).Occurs ∧
      first.Ready (store [⟨0⟩]) ∧ second.Ready (store [⟨0⟩]) ∧ first ≠ second ∧
        ∃ after before last,
          second.write {} 1 (store [⟨0⟩]) (.int32 2) = some (after, .ok ()) ∧
          first.read {} 1 (store [⟨0⟩]) = some (before, .ok (.int32 0)) ∧
          first.read {} 1 after = some (last, .ok (.int32 2)) :=
  ⟨rfl, occurs rfl, first_ready _, second_ready _, by decide, _, _, _, rfl, rfl, rfl⟩

end Pair

end Rekindle.Machine
