import Mathlib.Data.List.Forall2
import Rekindle.Machine.Host
import Rekindle.Proofs.Validity.Valid

/-!
# Alike values

Two machines run one module in two forms. A callback made by one of them has a counterpart in the
other, whose identity may be different: the list of names holds, for each identity of the one, the
identity of the other. Alike values are the same but for that. They speak of nothing but the module,
and are combined and compared to the same effect.
-/

namespace Rekindle.Machine

/-- The handle of the first module that a machine loads. -/
def firstModule : ModuleHandle := ⟨0⟩

/-- A type of a module under arguments of the right number. -/
structure Instantiation.Placed (module : Module) (instantiation : Instantiation) : Prop where
  module_eq : instantiation.module = firstModule
  declared : ∃ type, module.type? instantiation.type = some type ∧
    type.arity = instantiation.arguments.length

/-- A routine of a module under arguments of the right number. -/
structure BoundRoutine.Known (module : Module) (target : BoundRoutine) : Prop where
  module_eq : target.module = firstModule
  declared : ∃ routine, module.routine? target.routine = some routine ∧
    ∃ type, module.type? routine.owner = some type ∧ type.arity = target.arguments.length

/-- Callbacks with the same targets, of which the names say that one stands for the other. -/
structure Callback.Alike (module : Module) (names : List Nat) (left right : Callback) : Prop where
  named : names[left.identity]? = some right.identity
  targets_eq : left.targets = right.targets
  known : ∀ target ∈ left.targets, target.Known module

/-- Values of two machines of which one stands for the other. -/
inductive Value.Alike (module : Module) (names : List Nat) : Value → Value → Prop where
  | null : Alike module names .null .null
  | bool {value : Bool} : Alike module names (.bool value) (.bool value)
  | int32 {value : Int32} : Alike module names (.int32 value) (.int32 value)
  | int64 {value : Int64} : Alike module names (.int64 value) (.int64 value)
  | float64 {value : Binary64} : Alike module names (.float64 value) (.float64 value)
  | string {value : String} : Alike module names (.string value) (.string value)
  | pointer {target : BoundRoutine} (known : target.Known module) :
      Alike module names (.pointer target) (.pointer target)
  | callback {left right : Callback} (alike : left.Alike module names right) :
      Alike module names (.callback left) (.callback right)
  | address {place : Address} (placed : place.instantiation.Placed module) :
      Alike module names (.address place) (.address place)

/-- Whether a trap has no value in it. -/
def Trap.isValueless : Trap → Bool
  | .thrown _ | .typeInitializationFailed _ _ => false
  | _ => true

/-- Traps of two machines that differ at most in their values and in which routine they name. -/
inductive Trap.Alike (module : Module) (names : List Nat) : Trap → Trap → Prop where
  | thrown {left right : Value} (values : left.Alike module names right) :
      Alike module names (.thrown left) (.thrown right)
  | failed {type : String} {left right : Trap} (causes : Alike module names left right) :
      Alike module names (.typeInitializationFailed type left) (.typeInitializationFailed type right)
  | underflow {left right : String} :
      Alike module names (.stackUnderflow left) (.stackUnderflow right)
  | reference {left right : String} {operand : Operand} :
      Alike module names (.badReference left operand) (.badReference right operand)
  | leftBody {left right : String} :
      Alike module names (.controlLeftBody left) (.controlLeftBody right)
  | same {trap : Trap} (valueless : trap.isValueless = true) : Alike module names trap trap

variable {module : Module} {names more : List Nat}

/-! ### More names -/

theorem getElem?_of_grown {index name : Nat} (grown : names <+: more)
    (named : names[index]? = some name) : more[index]? = some name := by
  rcases List.getElem?_eq_some_iff.mp named with ⟨inside, rfl⟩
  exact List.prefix_iff_getElem?.mp grown index inside

theorem Callback.Alike.mono {left right : Callback} (grown : names <+: more)
    (alike : left.Alike module names right) : left.Alike module more right :=
  ⟨getElem?_of_grown grown alike.named, alike.targets_eq, alike.known⟩

theorem Value.Alike.mono {left right : Value} (grown : names <+: more)
    (alike : left.Alike module names right) : left.Alike module more right := by
  cases alike with
  | null => exact .null
  | bool => exact .bool
  | int32 => exact .int32
  | int64 => exact .int64
  | float64 => exact .float64
  | string => exact .string
  | pointer known => exact .pointer known
  | callback alike => exact .callback (alike.mono grown)
  | address placed => exact .address placed

theorem Trap.Alike.mono {left right : Trap} (grown : names <+: more)
    (alike : left.Alike module names right) : left.Alike module more right := by
  induction alike with
  | thrown values => exact .thrown (values.mono grown)
  | failed _ ih => exact .failed ih
  | underflow => exact .underflow
  | reference => exact .reference
  | leftBody => exact .leftBody
  | same valueless => exact .same valueless

/-! ### What alike values have in common -/

namespace Value

variable {left right other another : Value}

theorem default_alike (names : List Nat) (type : ValueType) :
    (Value.default type).Alike module names (Value.default type) := by
  cases type <;> constructor

theorem Alike.isTruthy_eq (alike : left.Alike module names right) :
    left.isTruthy = right.isTruthy := by
  cases alike <;> rfl

theorem Alike.typeName_eq (alike : left.Alike module names right) :
    left.typeName = right.typeName := by
  cases alike <;> rfl

/-- Comparing alike values comes out the same, as no two callbacks have one name. -/
theorem Alike.same_eq (distinct : names.Nodup) (first : left.Alike module names right)
    (second : other.Alike module names another) : left.same other = right.same another := by
  cases first with
  | callback first =>
      cases second with
      | callback second =>
          rename_i one counterpart two twoCounterpart
          have inside := (List.getElem?_eq_some_iff.mp first.named).1
          -- a name is given once, so equal names belong to equal identities
          have unique : names[one.identity]? = names[two.identity]? ↔
              one.identity = two.identity := List.getElem?_inj inside distinct
          rw [first.named, second.named, Option.some.injEq] at unique
          simp only [same, Bool.beq_eq_decide_eq]
          exact decide_eq_decide.mpr unique.symm
      | _ => rfl
  | _ => cases second <;> rfl

/-- Combining alike values comes out alike once the new callbacks have each other's name. -/
theorem Alike.combine {fresh name : Nat} (named : more[fresh]? = some name)
    (first : left.Alike module more right) (second : other.Alike module more another) :
    Option.Rel (Value.Alike module more) (left.combine fresh other)
      (right.combine name another) := by
  cases first with
  | null =>
      cases second with
      | null => exact .some .null
      | callback second => exact .some (.callback second)
      | _ => exact .none
  | callback first =>
      cases second with
      | null => exact .some (.callback first)
      | callback second =>
          refine .some (.callback ⟨named, ?_, ?_⟩)
          · simp only [first.targets_eq, second.targets_eq]
          · intro target listed
            rcases List.mem_append.mp listed with early | late
            · exact first.known target early
            · exact second.known target late
      | _ => exact .none
  | _ => exact .none

end Value

theorem Trap.mismatch_alike {left right : Value} (operation : String)
    (alike : left.Alike module names right) :
    (Trap.mismatch operation left).Alike module names (Trap.mismatch operation right) := by
  rw [Trap.mismatch, Trap.mismatch, alike.typeName_eq]
  exact .same rfl

/-! ### Lists of alike values -/

section Lists

variable {α β : Type} {relation : α → β → Prop}

/-- Two optional values that agree are both absent or both present. -/
theorem rel_cases {left : Option α} {right : Option β} (related : Option.Rel relation left right) :
    (left = none ∧ right = none) ∨
      ∃ one other, left = some one ∧ right = some other ∧ relation one other := by
  cases related with
  | none => exact .inl ⟨rfl, rfl⟩
  | some agree => exact .inr ⟨_, _, rfl, rfl, agree⟩

theorem rel_map {γ δ : Type} {further : γ → δ → Prop} {left : Option α} {right : Option β}
    {change : α → γ} {otherChange : β → δ} (related : Option.Rel relation left right)
    (changed : ∀ one other, relation one other → further (change one) (otherChange other)) :
    Option.Rel further (left.map change) (right.map otherChange) := by
  cases related with
  | none => exact .none
  | some agree => exact .some (changed _ _ agree)

theorem rel_bind {γ δ : Type} {further : γ → δ → Prop} {left : Option α} {right : Option β}
    {next : α → Option γ} {otherNext : β → Option δ} (related : Option.Rel relation left right)
    (goesOn : ∀ one other, relation one other → Option.Rel further (next one) (otherNext other)) :
    Option.Rel further (left.bind next) (right.bind otherNext) := by
  cases related with
  | none => exact .none
  | some agree => exact goesOn _ _ agree

theorem rel_getElem? {left : List α} {right : List β} (related : List.Forall₂ relation left right)
    (position : Nat) : Option.Rel relation left[position]? right[position]? := by
  induction related generalizing position with
  | nil => exact .none
  | cons first _ ih =>
      cases position with
      | zero => exact .some first
      | succ position => exact ih position

theorem forall₂_set {left : List α} {right : List β} {value : α} {other : β}
    (related : List.Forall₂ relation left right) (values : relation value other) (position : Nat) :
    List.Forall₂ relation (left.set position value) (right.set position other) := by
  induction related generalizing position with
  | nil => exact .nil
  | cons first others ih =>
      cases position with
      | zero => exact .cons values others
      | succ position => exact .cons first (ih position)

end Lists

/-- Arrays of alike values. -/
def Values (module : Module) (names : List Nat) (left right : Array Value) : Prop :=
  List.Forall₂ (Value.Alike module names) left.toList right.toList

namespace Values

variable {left right : Array Value}

theorem mono (grown : names <+: more) (alike : Values module names left right) :
    Values module more left right :=
  List.Forall₂.imp (fun _ _ values => values.mono grown) alike

theorem getElem? (alike : Values module names left right) (position : Nat) :
    Option.Rel (Value.Alike module names) left[position]? right[position]? := by
  have related := rel_getElem? alike position
  rwa [Array.getElem?_toList, Array.getElem?_toList] at related

theorem set {value other : Value} (alike : Values module names left right)
    (values : value.Alike module names other) (position : Nat) :
    Values module names (left.setIfInBounds position value)
      (right.setIfInBounds position other) := by
  rw [Values, Array.toList_setIfInBounds, Array.toList_setIfInBounds]
  exact forall₂_set alike values position

end Values

/-! ### Computations that come out alike -/

/-- Two computations that fail alike, or succeed with what agrees. -/
inductive Mirrored (module : Module) (names : List Nat) {α β : Type} (agree : α → β → Prop) :
    Except Trap α → Except Trap β → Prop where
  | ok {left : α} {right : β} (agrees : agree left right) :
      Mirrored module names agree (.ok left) (.ok right)
  | error {left right : Trap} (alike : left.Alike module names right) :
      Mirrored module names agree (.error left) (.error right)

namespace Mirrored

variable {α β γ δ : Type} {agree : α → β → Prop} {further : γ → δ → Prop}

theorem bind {left : Except Trap α} {right : Except Trap β} {next : α → Except Trap γ}
    {otherNext : β → Except Trap δ} (first : Mirrored module names agree left right)
    (goesOn : ∀ one other, agree one other →
      Mirrored module names further (next one) (otherNext other)) :
    Mirrored module names further (left >>= next) (right >>= otherNext) := by
  cases first with
  | ok agrees => exact goesOn _ _ agrees
  | error alike => exact .error alike

theorem outcome {left : Except Trap α} {right : Except Trap β}
    (mirrored : Mirrored module names agree left right) :
    (∃ one other, left = .ok one ∧ right = .ok other ∧ agree one other) ∨
      ∃ trap other, left = .error trap ∧ right = .error other ∧ trap.Alike module names other := by
  cases mirrored with
  | ok agrees => exact .inl ⟨_, _, rfl, rfl, agrees⟩
  | error alike => exact .inr ⟨_, _, rfl, rfl, alike⟩

end Mirrored

end Rekindle.Machine
