import Rekindle.Machine.Frame

/-!
# Steps

A thread is a stack of activations: bodies in execution, and what is to be done before or after
them. A step executes one instruction of the topmost body or does the next thing above it.

What needs an instantiation asks for it first. If its initializer has to be run, the initializer
goes on top, and when it has ended, in whatever way, its end is made known and the thing that asked
asks again. A step first attempts what is next, which may raise a trap; a trap takes away
activations until a body receives it or an initializer ends by it.
-/

namespace Rekindle.Machine

/-- What a thread is doing, or has to do when what is above it has ended. -/
inductive Activation where
  /-- Executes a body. -/
  | body (frame : Frame)
  /-- Makes known that the initializer of an instantiation, which was above, has ended. -/
  | initializer (instantiation : Instantiation)
  /-- Calls routines one after the other. -/
  | targets (targets : List BoundRoutine)
  /-- Calls a routine when the type that declares it is ready. -/
  | call (target : BoundRoutine) (parameters : List Value)
  /-- Ends when an instantiation is ready. -/
  | access (instantiation : Instantiation)
deriving DecidableEq, Repr, Inhabited

/-- What comes of attempting the next thing of a thread. -/
inductive Attempt where
  | running (store : Store) (activations : List Activation)
  /-- Nothing can be done before another thread has ended an initializer. -/
  | blocked (store : Store) (activations : List Activation)
  /-- Nothing is left to be done. -/
  | returned (store : Store) (result : Option Value)
  /-- A trap was raised in the topmost of the activations. -/
  | raised (store : Store) (trap : Trap) (activations : List Activation)
deriving Inhabited

/-- What a step of a thread leads to. -/
inductive Progress where
  | running (store : Store) (activations : List Activation)
  /-- Nothing can be done before another thread has ended an initializer. -/
  | blocked (store : Store) (activations : List Activation)
  | finished (store : Store) (result : Except Trap (Option Value))
deriving Inhabited

def Activation.isBody : Activation → Bool
  | .body _ => true
  | _ => false

def depth (activations : List Activation) : Nat := activations.countP (·.isBody)

/-- Takes away activations until a body receives a trap or an initializer ends by it. -/
def unwind (store : Store) (trap : Trap) : List Activation → Progress
  | [] => .finished store (.error trap)
  | .initializer instantiation :: below =>
    .running (store.publish instantiation (.error trap)) below
  | .body frame :: below =>
    match frame.receive trap with
    | .ok frame => .running store (.body frame :: below)
    | .error trap => unwind store trap below
  | .targets _ :: below | .call _ _ :: below | .access _ :: below => unwind store trap below

def Attempt.settle : Attempt → Progress
  | .running store activations => .running store activations
  | .blocked store activations => .blocked store activations
  | .returned store result => .finished store (.ok result)
  | .raised store trap activations => unwind store trap activations

def complete (store : Store) (result : Option Value) : List Activation → Attempt
  | [] => .returned store result
  | .body frame :: below =>
    match frame.resume store result with
    | .ok frame => .running store (.body frame :: below)
    | .error trap => .raised store trap (.body frame :: below)
  | below => .running store below

/-- The initializer of an instantiation, if its type has one. -/
def initializerOf (store : Store) (instantiation : Instantiation) : Option BoundRoutine :=
  match store.modules[instantiation.module.position]? with
  | none => none
  | some module =>
    match module.initializer instantiation.type with
    | .ok (some routine) =>
      some { module := instantiation.module, routine, arguments := instantiation.arguments }
    | .ok none | .error _ => none

def startInitializer (limit : Nat) (store : Store) (instantiation : Instantiation)
    (activations : List Activation) : Attempt :=
  let waiting := .initializer instantiation :: activations
  match initializerOf store instantiation with
  | none => .running store waiting
  | some target =>
    match Frame.enter limit (depth activations + 1) store target [] with
    | .ok frame => .running store (.body frame :: waiting)
    | .error trap => .raised store trap waiting

/-- Goes on if an instantiation is ready, and otherwise makes it ready first. -/
def acquire (limit : Nat) (thread : ThreadId) (store : Store) (instantiation : Instantiation)
    (activations : List Activation) (proceed : Store → Attempt) : Attempt :=
  match store.ask thread instantiation with
  | .error trap => .raised store trap activations
  | .ok (store, .ready) => proceed store
  | .ok (store, .run) => startInitializer limit store instantiation activations
  | .ok (store, .failed cause) =>
    .raised store (.typeInitializationFailed (store.typeName instantiation) cause) activations
  | .ok (store, .wait) => .blocked store activations

/-- Goes on with the frame after an instruction, or raises a trap in the frame before it. -/
def proceedWith (store : Store) (frame : Frame) (below : List Activation) :
    Except Trap (Store × Frame) → Attempt
  | .ok (store, frame) => .running store (.body frame :: below)
  | .error trap => .raised store trap (.body frame :: below)

def accessField (limit : Nat) (thread : ThreadId) (store : Store) (frame : Frame)
    (below : List Activation) (reference : FieldRef)
    (use : Store → Address → Except Trap (Store × Frame)) : Attempt :=
  match frame.address store reference with
  | .error trap => .raised store trap (.body frame :: below)
  | .ok address =>
    acquire limit thread store address.instantiation (.body frame :: below) fun store =>
      proceedWith store frame below (use store address)

/-- The type that declares a routine, under the arguments of the routine. -/
def ownerOf (store : Store) (target : BoundRoutine) : Except Trap Instantiation := do
  let module ← store.module target.module
  match module.routine? target.routine with
  | none => throw (.unknownRoutine target.routine.text)
  | some routine =>
    return { module := target.module, type := routine.owner, arguments := target.arguments }

def call (limit : Nat) (thread : ThreadId) (store : Store) (target : BoundRoutine)
    (parameters : List Value) (below : List Activation) : Attempt :=
  match ownerOf store target with
  | .error trap => .raised store trap below
  | .ok instantiation =>
    acquire limit thread store instantiation (.call target parameters :: below) fun store =>
      match Frame.enter limit (depth below + 1) store target parameters with
      | .ok frame => .running store (.body frame :: below)
      | .error trap => .raised store trap below

def prepareCall (store : Store) (frame : Frame) (reference : RoutineRef) :
    Except Trap (List Value × Frame) := do
  let module ← store.module frame.module
  match module.routine? reference.routine with
  | none => throw (.unknownRoutine reference.routine.text)
  | some callee => frame.popMany callee.parameters.length

def prepareInvoke (frame : Frame) : Except Trap (List BoundRoutine × Frame) := do
  let (value, frame) ← frame.pop
  match value with
  | .callback object => return (object.targets, frame)
  | .null => throw (.nullReference "invoke")
  | other => throw (.mismatch "invoke" other)

def resultOf (frame : Frame) : Except Trap (Option Value) :=
  if frame.returns then (frame.pop).map fun popped => some popped.1 else .ok none

def stepBody (limit : Nat) (thread : ThreadId) (store : Store) (frame : Frame)
    (below : List Activation) (instruction : Instruction) : Attempt :=
  match instruction with
  | .loadField reference =>
    accessField limit thread store frame below reference fun store address => do
      let value ← store.read address
      return (store, ← frame.yield value)
  | .storeField reference =>
    match frame.pop with
    | .error trap => .raised store trap (.body frame :: below)
    | .ok (value, rest) =>
      accessField limit thread store frame below reference fun store address => do
        let store ← store.write address value
        return (store, rest.advance)
  | .loadFieldAddress reference =>
    accessField limit thread store frame below reference fun store address => do
      return (store, ← frame.yield (.address address))
  | .call reference =>
    match prepareCall store frame reference with
    | .error trap => .raised store trap (.body frame :: below)
    | .ok (parameters, rest) =>
      .running store (.call (frame.bound reference) parameters :: .body rest :: below)
  | .invokeCallback =>
    match prepareInvoke frame with
    | .error trap => .raised store trap (.body frame :: below)
    | .ok (targets, rest) => .running store (.targets targets :: .body rest :: below)
  | .ret =>
    match resultOf frame with
    | .error trap => .raised store trap (.body frame :: below)
    | .ok result => complete store result below
  | instruction => proceedWith store frame below (frame.execute store instruction)

def attempt (limit : Nat) (thread : ThreadId) (store : Store) : List Activation → Attempt
  | [] => .returned store none
  | .initializer instantiation :: below => .running (store.publish instantiation (.ok ())) below
  | .targets [] :: below => complete store none below
  | .targets (target :: others) :: below =>
    .running store (.call target [] :: .targets others :: below)
  | .call target parameters :: below => call limit thread store target parameters below
  | .access instantiation :: below =>
    acquire limit thread store instantiation (.access instantiation :: below) fun store =>
      complete store none below
  | .body frame :: below =>
    match frame.instruction? with
    | none => .raised store (.controlLeftBody frame.name) (.body frame :: below)
    | some instruction => stepBody limit thread store frame below instruction

def step (limit : Nat) (thread : ThreadId) (store : Store) (activations : List Activation) :
    Progress :=
  (attempt limit thread store activations).settle

end Rekindle.Machine
