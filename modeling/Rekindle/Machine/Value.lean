import Rekindle.Attribute
import Rekindle.Reference

/-!
# Values

What a running machine computes with. Numbers and texts are compared by what they are; a callback
is an object with an identity of its own, so two callbacks with the same targets can be told apart.
Combining two callbacks makes a new one, while combining with null gives back the other side.
-/

namespace Rekindle.Machine

/-- The place of a module among those a machine has loaded. -/
structure ModuleHandle where
  position : Nat
deriving DecidableEq, Repr, Inhabited

def ModuleHandle.text (handle : ModuleHandle) : String := "module#" ++ toString handle.position

/-- A routine under arguments of the type that declares it. -/
structure BoundRoutine where
  module : ModuleHandle
  routine : RoutineId
  arguments : List ValueType
deriving DecidableEq, Repr, Inhabited

/-- A type of a loaded module under arguments. -/
structure Instantiation where
  module : ModuleHandle
  type : TypeId
  arguments : List ValueType
deriving DecidableEq, Repr, Inhabited

/-- The place of one static slot. -/
structure Address where
  instantiation : Instantiation
  slot : Nat
deriving DecidableEq, Repr, Inhabited

def Address.text (address : Address) : String :=
  "&" ++ address.instantiation.type.text ++ "[" ++ toString address.slot ++ "]"

/-- A list of routines to be called one after the other. -/
structure Callback where
  /-- What tells this callback from every other one. -/
  identity : Nat
  targets : List BoundRoutine
deriving DecidableEq, Repr, Inhabited

/-- A value of the machine. -/
inductive Value where
  | null
  | bool (value : Bool)
  | int32 (value : Int32)
  | int64 (value : Int64)
  | float64 (value : Binary64)
  | string (value : String)
  | pointer (target : BoundRoutine)
  | callback (object : Callback)
  | address (place : Address)
deriving DecidableEq, Repr, Inhabited

namespace Value

def default : ValueType → Value
  | .bool => .bool false
  | .int32 => .int32 0
  | .int64 => .int64 0
  | .float64 => .float64 .zero
  | .void | .string | .object | .callback | .pointer _ | .defined _ _ | .parameter _
  | .foreign _ => .null

/-- Whether this is the null value. -/
def isNull : Value → Bool
  | .null => true
  | _ => false

/-- Whether a conditional branch takes the value for true: null and every zero are false, and
everything else is true. -/
def isTruthy : Value → Bool
  | .null => false
  | .bool value => value
  | .int32 value => value != 0
  | .int64 value => value != 0
  | .float64 value => !value.isZero
  | .string _ | .pointer _ | .callback _ | .address _ => true

/-- The comparison of the machine: a callback is the same as itself only, and values of different
types are never the same. -/
def same : Value → Value → Bool
  | .null, .null => true
  | .bool left, .bool right => left == right
  | .int32 left, .int32 right => left == right
  | .int64 left, .int64 right => left == right
  | .float64 left, .float64 right => left.same right
  | .string left, .string right => left == right
  | .pointer left, .pointer right => left = right
  | .callback left, .callback right => left.identity == right.identity
  | .address left, .address right => left = right
  | _, _ => false

/-- The comparison of an observer, for whom callbacks are equal when their targets are. -/
def equal : Value → Value → Bool
  | .callback left, .callback right => left.targets = right.targets
  | left, right => left.same right

def typeName : Value → String
  | .null => "null"
  | .bool _ => "bool"
  | .int32 _ => "i32"
  | .int64 _ => "i64"
  | .float64 _ => "f64"
  | .string _ => "string"
  | .pointer _ => "fnptr"
  | .callback _ => "callback"
  | .address _ => "address"

def text : Value → String
  | .null => "null"
  | .bool value => if value then "true" else "false"
  | .int32 value => toString value.toInt
  | .int64 value => toString value.toInt ++ "L"
  | .float64 value => Decimal.Layout.value.text value
  | .string value => Text.quoted value
  | .pointer target => "&" ++ target.routine.text
  | .callback object => "callback[" ++ toString object.targets.length ++ "]"
  | .address place => place.text

/-- Combines two callbacks under the identity a new one gets. What is neither a callback nor null
cannot be combined. -/
def combine (fresh : Nat) : (first second : Value) → Option Value
  | .null, .null => some .null
  | .null, .callback second => some (.callback second)
  | .callback first, .null => some (.callback first)
  | .callback first, .callback second =>
    some (.callback { identity := fresh, targets := first.targets ++ second.targets })
  | _, _ => none

/-- The targets of a callback, none for any other value. -/
def targets : Value → List BoundRoutine
  | .callback object => object.targets
  | _ => []

/-- The targets of a combination are those of the first followed by those of the second. -/
theorem targets_combine {fresh : Nat} {first second combined : Value}
    (made : combine fresh first second = some combined) :
    combined.targets = first.targets ++ second.targets := by
  cases first <;> cases second <;> simp_all [combine] <;> subst made <;> simp [targets]

end Value

end Rekindle.Machine
