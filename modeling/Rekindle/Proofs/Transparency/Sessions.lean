import Rekindle.Proofs.Transparency.Simulation

/-!
# Sessions

A host makes one call after the other, and can hand over again what it was given. Two sessions of
one module and its woven form answer alike, call by call, as long as the woven form does not meet
the limit of the depth of calls. An observer who cannot see the identities of callbacks, nor the
names of routines in traps, cannot tell the two apart.
-/

namespace Rekindle.Machine

open Fallible Reload Validity

/-- A value that a host hands over: one of its own, or what it was given at a position. -/
inductive HostValue where
  | own (value : Value)
  | given (position : Nat)

/-- A call of a host about the first module. -/
inductive HostCall where
  /-- Makes a callback. -/
  | callback (targets : List BoundRoutine)
  | invoke (routine : RoutineId) (arguments : List ValueType) (parameters : List HostValue)
  | read (field : FieldId) (arguments : List ValueType)
  | write (field : FieldId) (arguments : List ValueType) (value : HostValue)

/-- What a host is told: a trap, a value, or that it is done. -/
abbrev Reply := Except Trap (Option Value)

/-- The value that is handed over, given what the host was given so far. -/
def HostValue.value (held : List Value) : HostValue → Value
  | .own value => value
  | .given position => held[position]?.getD .null

def Reply.values : Reply → List Value
  | .ok (some value) => [value]
  | .ok none | .error _ => []

namespace HostCall

/-- Makes a call with a bound on the number of steps. -/
def perform (call : HostCall) (limits : Limits) (steps : Nat) (held : List Value)
    (store : Store) : Answer (Option Value) :=
  match call with
  | .callback targets =>
    some ((store.newCallback targets).1, .ok (some (store.newCallback targets).2))
  | .invoke routine arguments parameters =>
    store.invoke limits steps firstModule routine arguments (parameters.map (·.value held))
  | .read field arguments =>
    (store.readField limits steps firstModule field arguments).map fun answer =>
      (answer.1, answer.2.map some)
  | .write field arguments value =>
    (store.writeField limits steps firstModule field arguments (value.value held)).map fun answer =>
      (answer.1, answer.2.map fun _ => none)

/-- What is put on a thread for a call, if it is accepted and anything has to run. -/
def begins (call : HostCall) (held : List Value) (store : Store) :
    Except Trap (List Activation) :=
  match call with
  | .callback _ => .ok []
  | .invoke routine arguments parameters =>
    (store.hostTarget firstModule routine arguments).map fun target =>
      [.call target (parameters.map (·.value held))]
  | .read field arguments | .write field arguments _ =>
    (store.hostAddress firstModule field arguments).map fun address =>
      [.access address.instantiation]

end HostCall

/-- Calls that are made one after the other, each with as many steps as it takes, what the store
comes to and what is replied to each. -/
inductive Session (limits : Limits) :
    Store → List Value → List HostCall → Store → List Reply → Prop where
  | done {store : Store} {held : List Value} : Session limits store held [] store []
  | next {steps : Nat} {store middle after : Store} {held : List Value} {call : HostCall}
      {calls : List HostCall} {reply : Reply} {replies : List Reply}
      (performs : call.perform limits steps held store = some (middle, reply))
      (others : Session limits middle (held ++ reply.values) calls after replies) :
      Session limits store held (call :: calls) after (reply :: replies)

/-- Whether one of the calls, made one after the other, meets the limit of the depth. -/
inductive MeetsLimit (limits : Limits) : Store → List Value → List HostCall → Prop where
  | now {store : Store} {held : List Value} {call : HostCall} {calls : List HostCall}
      {activations : List Activation} (begins : call.begins held store = .ok activations)
      (meets : ¬Shallow limits.callDepth hostThread store activations) :
      MeetsLimit limits store held (call :: calls)
  | later {steps : Nat} {store middle : Store} {held : List Value} {call : HostCall}
      {calls : List HostCall} {reply : Reply}
      (performs : call.perform limits steps held store = some (middle, reply))
      (meets : MeetsLimit limits middle (held ++ reply.values) calls) :
      MeetsLimit limits store held (call :: calls)

section Avoiding

variable {limits : Limits} {store middle : Store} {held : List Value} {call : HostCall}
  {calls : List HostCall} {reply : Reply}

theorem shallow_of_avoids (avoids : ¬MeetsLimit limits store held (call :: calls))
    (activations : List Activation) (begins : call.begins held store = .ok activations) :
    Shallow limits.callDepth hostThread store activations := by
  by_contra meets
  exact avoids (.now begins meets)

theorem avoids_later {steps : Nat} (avoids : ¬MeetsLimit limits store held (call :: calls))
    (performs : call.perform limits steps held store = some (middle, reply)) :
    ¬MeetsLimit limits middle (held ++ reply.values) calls :=
  fun meets => avoids (.later performs meets)

end Avoiding

section Unique

variable {limits : Limits} {store after other : Store} {held : List Value} {α : Type}
  {field : FieldId}

/-- What the end of the run that makes the type of a field ready comes to. -/
def concluded (use : Store → Address → Except Trap (Store × α)) (place : Address) :
    Store × Except Trap (Option Value) → Store × Except Trap α
  | (store, .error trap) => (store, .error trap)
  | (store, .ok _) =>
    match use store place with
    | .ok (store, value) => (store, .ok value)
    | .error trap => (store, .error trap)

theorem useField_of_ok {arguments : List ValueType} {place : Address}
    (accepted : store.hostAddress firstModule field arguments = .ok place)
    (use : Store → Address → Except Trap (Store × α)) (steps : Nat) :
    store.useField limits steps firstModule field arguments use =
      (run limits.callDepth hostThread steps store [.access place.instantiation]).map
        (concluded use place) := by
  simp only [Store.useField, accepted]
  rcases run limits.callDepth hostThread steps store [.access place.instantiation] with
    _ | ⟨after, trap | result⟩
  · rfl
  · rfl
  · simp only [Option.map_some, concluded]
    rcases use after place with trap | ⟨last, value⟩ <;> rfl

theorem useField_unique {steps more : Nat} {arguments : List ValueType}
    {use : Store → Address → Except Trap (Store × α)} {answer counterpart : Store × Except Trap α}
    (uses : store.useField limits steps firstModule field arguments use = some answer)
    (usesToo : store.useField limits more firstModule field arguments use = some counterpart) :
    answer = counterpart := by
  rcases found : store.hostAddress firstModule field arguments with trap | place
  · simp only [Store.useField, found] at uses usesToo
    exact Option.some.inj (uses.symm.trans usesToo)
  · rw [useField_of_ok found, Option.map_eq_some_iff] at uses usesToo
    rcases uses with ⟨result, runs, rfl⟩
    rcases usesToo with ⟨another, runsToo, rfl⟩
    rw [run_unique runs runsToo]

/-- However many steps a call may take, there is one answer to it. -/
theorem HostCall.perform_unique {call : HostCall} {steps more : Nat}
    {answer counterpart : Store × Reply}
    (performs : call.perform limits steps held store = some answer)
    (performsToo : call.perform limits more held store = some counterpart) :
    answer = counterpart := by
  cases call with
  | callback targets => exact Option.some.inj (performs.symm.trans performsToo)
  | invoke routine arguments parameters =>
      simp only [perform, Store.invoke] at performs performsToo
      rcases found : store.hostTarget firstModule routine arguments with trap | target
      · simp only [found] at performs performsToo
        exact Option.some.inj (performs.symm.trans performsToo)
      · simp only [found] at performs performsToo
        exact run_unique performs performsToo
  | read field arguments =>
      rcases Option.map_eq_some_iff.mp performs with ⟨first, reads, rfl⟩
      rcases Option.map_eq_some_iff.mp performsToo with ⟨second, readsToo, rfl⟩
      rw [useField_unique reads readsToo]
  | write field arguments value =>
      rcases Option.map_eq_some_iff.mp performs with ⟨first, writes, rfl⟩
      rcases Option.map_eq_some_iff.mp performsToo with ⟨second, writesToo, rfl⟩
      rw [useField_unique writes writesToo]

/-- What the calls of a session come to is determined. -/
theorem Session.unique {calls : List HostCall} {replies others : List Reply}
    (session : Session limits store held calls after replies)
    (another : Session limits store held calls other others) :
    after = other ∧ replies = others := by
  induction session generalizing other others with
  | done =>
      cases another with
      | done => exact ⟨rfl, rfl⟩
  | next performs _ ih =>
      cases another with
      | next performsToo anotherRest =>
          cases HostCall.perform_unique performs performsToo
          rcases ih anotherRest with ⟨rfl, rfl⟩
          exact ⟨rfl, rfl⟩

end Unique

/-! ### What a host may hand over -/

/-- A value a host can make by itself that speaks of nothing but a module. A callback it makes by
a call, and an address it can only be given. -/
def Value.IsPlain (module : Module) : Value → Prop
  | .pointer target => target.Known module
  | .callback _ | .address _ => False
  | _ => True

def HostValue.IsPlain (module : Module) : HostValue → Prop
  | .own value => value.IsPlain module
  | .given _ => True

/-- A call that speaks of nothing but a module. -/
def HostCall.IsAbout (module : Module) : HostCall → Prop
  | .callback targets => ∀ target ∈ targets, target.Known module
  | .invoke routine _ parameters =>
    (∃ declared, module.routine? routine = some declared) ∧
      ∀ value ∈ parameters, value.IsPlain module
  | .read field _ => ∃ declared, module.field? field = some declared
  | .write field _ value =>
    (∃ declared, module.field? field = some declared) ∧ value.IsPlain module

/-! ### What an observer sees -/

/-- A value without the identity of a callback. -/
def Value.anonymous : Value → Value
  | .callback object => .callback { object with identity := 0 }
  | other => other

/-- A trap without the identities of callbacks and without the names of the routines that a copy of
a routine does not share. -/
def Trap.anonymous : Trap → Trap
  | .thrown value => .thrown value.anonymous
  | .typeInitializationFailed type cause => .typeInitializationFailed type cause.anonymous
  | .stackUnderflow _ => .stackUnderflow ""
  | .badReference _ operand => .badReference "" operand
  | .controlLeftBody _ => .controlLeftBody ""
  | other => other

def Reply.anonymous (reply : Reply) : Reply :=
  (reply.map fun result => result.map Value.anonymous).mapError Trap.anonymous

/-- What two machines come to cannot be told apart by their replies, nor by any static slot of any
instantiation of the types of a module. -/
structure Indistinct (module : Module) (replies others : List Reply) (after other : Store) :
    Prop where
  replies_eq : others.map Reply.anonymous = replies.map Reply.anonymous
  slots_eq : ∀ place type, module.type? place.instantiation.type = some type →
    (other.slot? place).map Value.anonymous = (after.slot? place).map Value.anonymous

theorem Indistinct.cons {module : Module} {replies others : List Reply} {after other : Store}
    {reply counterpart : Reply} (indistinct : Indistinct module replies others after other)
    (same : counterpart.anonymous = reply.anonymous) :
    Indistinct module (reply :: replies) (counterpart :: others) after other := by
  refine ⟨?_, indistinct.slots_eq⟩
  simp only [List.map_cons, same, indistinct.replies_eq]

section Anonymous

variable {module : Module} {names : List Nat}

theorem Value.Alike.anonymous_eq {left right : Value} (alike : left.Alike module names right) :
    right.anonymous = left.anonymous := by
  cases alike with
  | callback callbacks => simp [Value.anonymous, callbacks.targets_eq]
  | _ => rfl

theorem Trap.Alike.anonymous_eq {left right : Trap} (alike : left.Alike module names right) :
    right.anonymous = left.anonymous := by
  induction alike with
  | thrown values => simp [Trap.anonymous, values.anonymous_eq]
  | failed _ ih => simp [Trap.anonymous, ih]
  | _ => rfl

theorem map_anonymous_eq {left right : Option Value}
    (alike : Option.Rel (Value.Alike module names) left right) :
    right.map Value.anonymous = left.map Value.anonymous := by
  cases alike with
  | none => rfl
  | some values => simp [values.anonymous_eq]

theorem Reply.anonymous_eq {left right : Reply}
    (alike : Mirrored module names (Weave.Results module names) left right) :
    Reply.anonymous right = Reply.anonymous left := by
  cases alike with
  | ok results => simp [Reply.anonymous, Except.map, Except.mapError, map_anonymous_eq results]
  | error traps => simp [Reply.anonymous, Except.map, Except.mapError, traps.anonymous_eq]

end Anonymous

/-! ### Computations with enough steps -/

/-- Two computations with a bound on their steps of which each gives a result when the other does,
and results that agree. -/
structure Coincide {α β : Type} (agree : α → β → Prop) (one : Nat → Option α)
    (other : Nat → Option β) : Prop where
  follows : ∀ steps result, one steps = some result →
    ∃ more counterpart, other more = some counterpart ∧ agree result counterpart
  precedes : ∀ steps counterpart, other steps = some counterpart →
    ∃ more result, one more = some result ∧ agree result counterpart

namespace Coincide

variable {α β γ δ : Type} {agree : α → β → Prop} {further : γ → δ → Prop}
  {one : Nat → Option α} {other : Nat → Option β}

theorem still {result : α} {counterpart : β} (agrees : agree result counterpart) :
    Coincide agree (fun _ => some result) (fun _ => some counterpart) := by
  refine ⟨?_, ?_⟩
  · rintro _ _ ⟨⟩
    exact ⟨0, counterpart, rfl, agrees⟩
  · rintro _ _ ⟨⟩
    exact ⟨0, result, rfl, agrees⟩

theorem map {change : α → γ} {otherChange : β → δ} (coincide : Coincide agree one other)
    (changed : ∀ result counterpart, agree result counterpart →
      further (change result) (otherChange counterpart)) :
    Coincide further (fun steps => (one steps).map change)
      (fun steps => (other steps).map otherChange) := by
  refine ⟨?_, ?_⟩
  · intro steps result gives
    rcases Option.map_eq_some_iff.mp gives with ⟨first, found, rfl⟩
    rcases coincide.follows steps first found with ⟨more, counterpart, otherFound, agrees⟩
    refine ⟨more, otherChange counterpart, ?_, changed first counterpart agrees⟩
    simp only [otherFound, Option.map_some]
  · intro steps result gives
    rcases Option.map_eq_some_iff.mp gives with ⟨counterpart, otherFound, rfl⟩
    rcases coincide.precedes steps counterpart otherFound with ⟨more, first, found, agrees⟩
    refine ⟨more, change first, ?_, changed first counterpart agrees⟩
    simp only [found, Option.map_some]

end Coincide

namespace Weave

variable {weave : Weave} {names : List Nat} {plain woven : Store} {limits : Limits}
  {left right : List Activation}

theorem run_coincides (stores : weave.Stores hostThread names plain woven)
    (stacked : weave.Stacked names left right)
    (shallow : Shallow limits.callDepth hostThread woven right) :
    Coincide (weave.Ends hostThread names (Results weave.module))
      (fun steps => run limits.callDepth hostThread steps plain left)
      (fun steps => run limits.callDepth hostThread steps woven right) :=
  ⟨fun _ _ runs => run_follows stores stacked shallow runs,
    fun _ _ runs => run_precedes stores stacked shallow runs⟩

/-! ### What the host looks up -/

theorem checkArguments_alike {id : TypeId} {type : TypeDecl}
    (declared : weave.module.type? id = some type) (arguments : List ValueType) (member : String) :
    Mirrored weave.module names (fun _ _ => type.arity = arguments.length)
      (Store.checkArguments weave.module id arguments member)
      (Store.checkArguments weave.woven id arguments member) := by
  rcases type_kept declared with ⟨routines, kept⟩
  have same : Store.checkArguments weave.woven id arguments member =
      Store.checkArguments weave.module id arguments member := by
    simp only [Store.checkArguments, declared, kept]
    rfl
  rw [same]
  simp only [Store.checkArguments, declared]
  split
  · exact .error (.same rfl)
  · rename_i arity_eq
    split
    · exact .error (.same rfl)
    · exact .ok (not_not.mp arity_eq)

theorem hostTarget_alike (stores : weave.Stores hostThread names plain woven)
    {routine : RoutineId} {declared : RoutineDecl}
    (found : weave.module.routine? routine = some declared) (arguments : List ValueType) :
    Mirrored weave.module names (fun target other => other = target ∧ target.Known weave.module)
      (plain.hostTarget firstModule routine arguments)
      (woven.hostTarget firstModule routine arguments) := by
  rcases routine_kept found with ⟨body, kept⟩
  rcases weave.reloadable.valid.routines routine declared found with ⟨type, ownerDeclared, _⟩
  simp only [Store.hostTarget, stores.module_eq rfl, stores.prepared.module_eq rfl, ok_bind, found,
    kept, routineName_eq found]
  apply (checkArguments_alike ownerDeclared arguments _).bind
  intro _ _ arity_eq
  exact .ok ⟨rfl, rfl, declared, found, type, ownerDeclared, arity_eq⟩

theorem hostAddress_alike (stores : weave.Stores hostThread names plain woven)
    {field : FieldId} {declared : FieldDecl}
    (found : weave.module.field? field = some declared) (arguments : List ValueType) :
    Mirrored weave.module names
      (fun place other => other = place ∧ place.instantiation.Placed weave.module)
      (plain.hostAddress firstModule field arguments)
      (woven.hostAddress firstModule field arguments) := by
  rcases weave.reloadable.valid.fields field declared found with ⟨type, ownerDeclared, _⟩
  rcases slotOf_ok found with ⟨slot, slot_eq⟩
  simp only [Store.hostAddress, stores.module_eq rfl, stores.prepared.module_eq rfl, ok_bind, found,
    field_kept found, fieldName_eq found, slotOf_eq found, slot_eq]
  split
  · exact .error (.same rfl)
  · apply (checkArguments_alike ownerDeclared arguments _).bind
    intro _ _ arity_eq
    exact .ok ⟨rfl, rfl, type, ownerDeclared, arity_eq⟩

/-! ### Calls -/

theorem invoke_coincides (stores : weave.Stores hostThread names plain woven)
    {routine : RoutineId} {declared : RoutineDecl}
    (found : weave.module.routine? routine = some declared) (arguments : List ValueType)
    {parameters counterparts : List Value}
    (values : List.Forall₂ (Value.Alike weave.module names) parameters counterparts)
    (shallow : ∀ target, woven.hostTarget firstModule routine arguments = .ok target →
      Shallow limits.callDepth hostThread woven [.call target counterparts]) :
    Coincide (weave.Ends hostThread names (Results weave.module))
      (fun steps => plain.invoke limits steps firstModule routine arguments parameters)
      (fun steps => woven.invoke limits steps firstModule routine arguments counterparts) := by
  rcases (hostTarget_alike stores found arguments).outcome with
    ⟨target, other, accepted, otherAccepted, rfl, known⟩ |
    ⟨trap, other, refused, otherRefused, traps⟩
  · simp only [Store.invoke, accepted, otherAccepted]
    exact run_coincides stores (.call known values .nil) (shallow _ otherAccepted)
  · simp only [Store.invoke, refused, otherRefused]
    exact .still ⟨names, List.prefix_refl names, stores, .error traps⟩

section Fields

variable {field : FieldId} {declared : FieldDecl} {α : Type}

theorem useField_coincides (stores : weave.Stores hostThread names plain woven)
    (found : weave.module.field? field = some declared) (arguments : List ValueType)
    {agree : List Nat → α → α → Prop} {use otherUse : Store → Address → Except Trap (Store × α)}
    (uses : ∀ more plainAfter wovenAfter place, names <+: more →
      weave.Stores hostThread more plainAfter wovenAfter →
      place.instantiation.Placed weave.module →
      Mirrored weave.module more
        (fun one other => weave.Stores hostThread more one.1 other.1 ∧ agree more one.2 other.2)
        (use plainAfter place) (otherUse wovenAfter place))
    (shallow : ∀ place, woven.hostAddress firstModule field arguments = .ok place →
      Shallow limits.callDepth hostThread woven [.access place.instantiation]) :
    Coincide (weave.Ends hostThread names agree)
      (fun steps => plain.useField limits steps firstModule field arguments use)
      (fun steps => woven.useField limits steps firstModule field arguments otherUse) := by
  rcases (hostAddress_alike stores found arguments).outcome with
    ⟨place, other, accepted, otherAccepted, rfl, placed⟩ |
    ⟨trap, other, refused, otherRefused, traps⟩
  · simp only [useField_of_ok accepted, useField_of_ok otherAccepted]
    apply (run_coincides stores (.access placed .nil) (shallow _ otherAccepted)).map
    rintro ⟨plainAfter, result⟩ ⟨wovenAfter, counterpart⟩ ⟨more, grown, storesAfter, results⟩
    rcases results.outcome with ⟨_, _, rfl, rfl, _⟩ | ⟨trap, another, rfl, rfl, traps⟩
    · rcases (uses more plainAfter wovenAfter _ grown storesAfter placed).outcome with
        ⟨⟨plainLast, one⟩, ⟨wovenLast, two⟩, used, otherUsed, storesLast, agrees⟩ |
        ⟨trap, another, failed, otherFailed, traps⟩
      · simp only [concluded, used, otherUsed]
        exact ⟨more, grown, storesLast, .ok agrees⟩
      · simp only [concluded, failed, otherFailed]
        exact ⟨more, grown, storesAfter, .error traps⟩
    · exact ⟨more, grown, storesAfter, .error traps⟩
  · simp only [Store.useField, refused, otherRefused]
    exact .still ⟨names, List.prefix_refl names, stores, .error traps⟩

theorem readField_coincides (stores : weave.Stores hostThread names plain woven)
    (found : weave.module.field? field = some declared) (arguments : List ValueType)
    (shallow : ∀ place, woven.hostAddress firstModule field arguments = .ok place →
      Shallow limits.callDepth hostThread woven [.access place.instantiation]) :
    Coincide (weave.Ends hostThread names (Value.Alike weave.module))
      (fun steps => plain.readField limits steps firstModule field arguments)
      (fun steps => woven.readField limits steps firstModule field arguments) := by
  refine useField_coincides stores found arguments ?_ shallow
  intro more plainAfter wovenAfter place _ storesAfter placed
  rcases rel_cases (storesAfter.slot? placed) with
    ⟨missing, otherMissing⟩ | ⟨value, other, present, otherPresent, values⟩
  · simp only [missing, otherMissing]
    exact .error (.same rfl)
  · simp only [present, otherPresent]
    exact .ok ⟨storesAfter, values⟩

theorem writeField_coincides (stores : weave.Stores hostThread names plain woven)
    (found : weave.module.field? field = some declared) (arguments : List ValueType)
    {value other : Value} (values : value.Alike weave.module names other)
    (shallow : ∀ place, woven.hostAddress firstModule field arguments = .ok place →
      Shallow limits.callDepth hostThread woven [.access place.instantiation]) :
    Coincide (weave.Ends hostThread names fun _ _ _ => True)
      (fun steps => plain.writeField limits steps firstModule field arguments value)
      (fun steps => woven.writeField limits steps firstModule field arguments other) := by
  refine useField_coincides stores found arguments ?_ shallow
  intro more plainAfter wovenAfter place grown storesAfter placed
  rcases rel_cases (storesAfter.slot? placed) with
    ⟨missing, otherMissing⟩ | ⟨held, otherHeld, present, otherPresent, _⟩
  · simp only [missing, otherMissing]
    exact .error (.same rfl)
  · simp only [present, otherPresent]
    exact .ok ⟨storesAfter.setSlot placed (values.mono grown), trivial⟩

end Fields

section Calls

variable {held otherHeld : List Value}

theorem plain_alike {value : Value} (isPlain : value.IsPlain weave.module) :
    value.Alike weave.module names value := by
  cases value with
  | pointer => exact .pointer isPlain
  | callback => exact isPlain.elim
  | address => exact isPlain.elim
  | _ => constructor

/-- What is handed over on both sides is alike if what was given so far is. -/
theorem value_alike {value : HostValue} (isPlain : value.IsPlain weave.module)
    (helds : List.Forall₂ (Value.Alike weave.module names) held otherHeld) :
    (value.value held).Alike weave.module names (value.value otherHeld) := by
  cases value with
  | own value => exact plain_alike isPlain
  | given position =>
      rcases rel_cases (rel_getElem? helds position) with
        ⟨missing, otherMissing⟩ | ⟨one, other, found, otherFound, values⟩
      · simp only [HostValue.value, missing, otherMissing]
        exact .null
      · simp only [HostValue.value, found, otherFound]
        exact values

theorem values_alike {values : List HostValue}
    (allPlain : ∀ value ∈ values, value.IsPlain weave.module)
    (helds : List.Forall₂ (Value.Alike weave.module names) held otherHeld) :
    List.Forall₂ (Value.Alike weave.module names) (values.map (·.value held))
      (values.map (·.value otherHeld)) := by
  rw [List.forall₂_map_left_iff, List.forall₂_map_right_iff, List.forall₂_same]
  intro value listed
  exact value_alike (allPlain value listed) helds

theorem given_alike {more : List Nat} {reply other : Reply} (grown : names <+: more)
    (helds : List.Forall₂ (Value.Alike weave.module names) held otherHeld)
    (replies : Mirrored weave.module more (Results weave.module more) reply other) :
    List.Forall₂ (Value.Alike weave.module more) (held ++ reply.values)
      (otherHeld ++ other.values) := by
  have heldsMore : List.Forall₂ (Value.Alike weave.module more) held otherHeld :=
    List.Forall₂.imp (fun _ _ values => values.mono grown) helds
  apply List.rel_append heldsMore
  cases replies with
  | ok results =>
      cases results with
      | none => exact .nil
      | some values => exact .cons values .nil
  | error => exact .nil

theorem perform_coincides {call : HostCall} (about : call.IsAbout weave.module)
    (stores : weave.Stores hostThread names plain woven)
    (helds : List.Forall₂ (Value.Alike weave.module names) held otherHeld)
    (shallow : ∀ activations, call.begins otherHeld woven = .ok activations →
      Shallow limits.callDepth hostThread woven activations) :
    Coincide (weave.Ends hostThread names (Results weave.module))
      (fun steps => call.perform limits steps held plain)
      (fun steps => call.perform limits steps otherHeld woven) := by
  cases call with
  | callback targets =>
      rcases stores.newCallback about with ⟨issued, callbacks⟩
      exact .still ⟨_, List.prefix_append _ _, issued, .ok (.some callbacks)⟩
  | invoke routine arguments parameters =>
      rcases about with ⟨⟨declared, found⟩, allPlain⟩
      refine invoke_coincides stores found arguments (values_alike allPlain helds) ?_
      intro target accepted
      apply shallow
      simp only [HostCall.begins, accepted, Except.map]
  | read field arguments =>
      rcases about with ⟨declared, found⟩
      apply (readField_coincides stores found arguments ?_).map
      · intro one other ends
        exact ends.map fun _ _ _ values => .some values
      · intro place accepted
        apply shallow
        simp only [HostCall.begins, accepted, Except.map]
  | write field arguments value =>
      rcases about with ⟨⟨declared, found⟩, isPlain⟩
      have values := value_alike isPlain helds
      apply (writeField_coincides stores found arguments values ?_).map
      · intro one other ends
        exact ends.map fun _ _ _ _ => .none
      · intro place accepted
        apply shallow
        simp only [HostCall.begins, accepted, Except.map]

end Calls

/-! ### Sessions -/

theorem indistinct_of_stores (stores : weave.Stores hostThread names plain woven) :
    Indistinct weave.module [] [] plain woven := by
  refine ⟨rfl, ?_⟩
  intro place type declared
  apply map_anonymous_eq
  apply stores.slot?_of_ne
  intro same
  rw [same, weave.reloadable.fresh] at declared
  cases declared

section Sessions

variable {held otherHeld : List Value} {calls : List HostCall} {after other : Store}
  {replies others : List Reply}

/-- A session with the module makes one with the woven form that cannot be told apart from it. -/
theorem session_follows (stores : weave.Stores hostThread names plain woven)
    (helds : List.Forall₂ (Value.Alike weave.module names) held otherHeld)
    (about : ∀ call ∈ calls, call.IsAbout weave.module)
    (avoids : ¬MeetsLimit limits woven otherHeld calls)
    (session : Session limits plain held calls after replies) :
    ∃ other others, Session limits woven otherHeld calls other others ∧
      Indistinct weave.module replies others after other := by
  induction session generalizing names woven otherHeld with
  | done => exact ⟨woven, [], .done, indistinct_of_stores stores⟩
  | next performs _ ih =>
      rw [List.forall_mem_cons] at about
      have coincide := perform_coincides about.1 stores helds (shallow_of_avoids avoids)
      rcases coincide.follows _ _ performs with
        ⟨steps, ⟨middle, reply⟩, otherPerforms, more, grown, storesAfter, alike⟩
      rcases ih storesAfter (given_alike grown helds alike) about.2
        (avoids_later avoids otherPerforms) with ⟨other, others, session, indistinct⟩
      exact ⟨other, reply :: others, .next otherPerforms session,
        indistinct.cons (Reply.anonymous_eq alike)⟩

/-- A session with the woven form makes one with the module. -/
theorem session_precedes (stores : weave.Stores hostThread names plain woven)
    (helds : List.Forall₂ (Value.Alike weave.module names) held otherHeld)
    (about : ∀ call ∈ calls, call.IsAbout weave.module)
    (avoids : ¬MeetsLimit limits woven otherHeld calls)
    (session : Session limits woven otherHeld calls other others) :
    ∃ after replies, Session limits plain held calls after replies := by
  induction session generalizing names plain held with
  | done => exact ⟨plain, [], .done⟩
  | next performs _ ih =>
      rw [List.forall_mem_cons] at about
      have coincide := perform_coincides about.1 stores helds (shallow_of_avoids avoids)
      rcases coincide.precedes _ _ performs with
        ⟨steps, ⟨middle, reply⟩, plainPerforms, more, grown, storesAfter, alike⟩
      rcases ih storesAfter (given_alike grown helds alike) about.2
        (avoids_later avoids performs) with ⟨after, replies, session⟩
      exact ⟨after, reply :: replies, .next plainPerforms session⟩

end Sessions

end Weave

end Rekindle.Machine
