import Rekindle.Handle

/-!
# Value types

The types of fields, locals, parameters and results. A type declared with parameters is
instantiated by a list of value types; inside such a type its parameters are named by position.
Substitution replaces the parameters by arguments, and a closed value type has none left.
-/

namespace Rekindle

/-- The type of a value. -/
inductive ValueType where
  | void
  | bool
  | int32
  | int64
  | float64
  | string
  | object
  /-- A list of routines that are called one after the other. -/
  | callback
  /-- The place where a value is stored. -/
  | pointer (target : ValueType)
  /-- A type of the same module, instantiated when it is generic. -/
  | defined (type : TypeId) (arguments : List ValueType)
  /-- A parameter of the surrounding type. -/
  | parameter (index : UInt16)
  /-- A type of another module, by its full name. -/
  | foreign (name : String)
deriving Repr, Inhabited

namespace ValueType

mutual

def same : (left right : ValueType) → Bool
  | .void, .void => true
  | .bool, .bool => true
  | .int32, .int32 => true
  | .int64, .int64 => true
  | .float64, .float64 => true
  | .string, .string => true
  | .object, .object => true
  | .callback, .callback => true
  | .pointer left, .pointer right => same left right
  | .defined left leftArguments, .defined right rightArguments =>
    decide (left = right) && sameAll leftArguments rightArguments
  | .parameter left, .parameter right => decide (left = right)
  | .foreign left, .foreign right => decide (left = right)
  | _, _ => false

def sameAll : (left right : List ValueType) → Bool
  | [], [] => true
  | left :: lefts, right :: rights => same left right && sameAll lefts rights
  | _, _ => false

end

mutual

theorem same_iff : (left right : ValueType) → (same left right = true ↔ left = right)
  | .pointer left, right => by
    cases right with
    | pointer right => simp [same, same_iff left right]
    | _ => simp [same]
  | .defined left leftArguments, right => by
    cases right with
    | defined right rightArguments =>
      simp [same, sameAll_iff leftArguments rightArguments]
    | _ => simp [same]
  | .void, right => by cases right <;> simp [same]
  | .bool, right => by cases right <;> simp [same]
  | .int32, right => by cases right <;> simp [same]
  | .int64, right => by cases right <;> simp [same]
  | .float64, right => by cases right <;> simp [same]
  | .string, right => by cases right <;> simp [same]
  | .object, right => by cases right <;> simp [same]
  | .callback, right => by cases right <;> simp [same]
  | .parameter left, right => by cases right <;> simp [same]
  | .foreign left, right => by cases right <;> simp [same]

theorem sameAll_iff : (left right : List ValueType) → (sameAll left right = true ↔ left = right)
  | [], right => by cases right <;> simp [sameAll]
  | left :: lefts, right => by
    cases right with
    | nil => simp [sameAll]
    | cons right rights => simp [sameAll, same_iff left right, sameAll_iff lefts rights]

end

instance : DecidableEq ValueType := fun left right =>
  decidable_of_iff (same left right = true) (same_iff left right)

def isVoid : ValueType → Bool
  | .void => true
  | _ => false

mutual

def isClosed : ValueType → Bool
  | .parameter _ => false
  | .pointer target => target.isClosed
  | .defined _ arguments => allClosed arguments
  | .void | .bool | .int32 | .int64 | .float64 | .string | .object | .callback | .foreign _ => true

def allClosed : List ValueType → Bool
  | [] => true
  | type :: types => type.isClosed && allClosed types

end

def greatest : Option UInt16 → Option UInt16 → Option UInt16
  | none, right => right
  | left, none => left
  | some left, some right => some (if left ≤ right then right else left)

mutual

def maxParameter : ValueType → Option UInt16
  | .parameter index => some index
  | .pointer target => target.maxParameter
  | .defined _ arguments => maxParameterOfAll arguments
  | .void | .bool | .int32 | .int64 | .float64 | .string | .object | .callback | .foreign _ => none

/-- The greatest position of a parameter that one of the value types mentions. -/
def maxParameterOfAll : List ValueType → Option UInt16
  | [] => none
  | type :: types => greatest type.maxParameter (maxParameterOfAll types)

end

mutual

/-- Puts the arguments in place of the parameters; a parameter without an argument stays. -/
def substitute (arguments : List ValueType) : ValueType → ValueType
  | .parameter index => (arguments[index.toNat]?).getD (.parameter index)
  | .pointer target => .pointer (target.substitute arguments)
  | .defined type inner => .defined type (substituteAll arguments inner)
  | .void => .void
  | .bool => .bool
  | .int32 => .int32
  | .int64 => .int64
  | .float64 => .float64
  | .string => .string
  | .object => .object
  | .callback => .callback
  | .foreign name => .foreign name

/-- Puts the arguments in place of the parameters of every value type. -/
def substituteAll (arguments : List ValueType) : List ValueType → List ValueType
  | [] => []
  | type :: types => type.substitute arguments :: substituteAll arguments types

end

theorem allClosed_eq_all (types : List ValueType) : allClosed types = types.all isClosed := by
  induction types with
  | nil => simp [allClosed]
  | cons type types ih => simp [allClosed, ih]

theorem substituteAll_eq_map (arguments types : List ValueType) :
    substituteAll arguments types = types.map (substitute arguments) := by
  induction types with
  | nil => simp [substituteAll]
  | cons type types ih => simp [substituteAll, ih]

mutual

def text : ValueType → String
  | .void => "void"
  | .bool => "bool"
  | .int32 => "i32"
  | .int64 => "i64"
  | .float64 => "f64"
  | .string => "string"
  | .object => "object"
  | .callback => "callback"
  | .pointer target => target.text ++ "&"
  | .defined type [] => type.text
  | .defined type (argument :: others) =>
    type.text ++ "<" ++ argument.text ++ textOfOthers others ++ ">"
  | .parameter index => "!" ++ toString index.toNat
  | .foreign name => "[ext]" ++ name

def textOfOthers : List ValueType → String
  | [] => ""
  | type :: types => ", " ++ type.text ++ textOfOthers types

end

/-- How a list of arguments is written: nothing for the empty list. -/
def argumentsText : List ValueType → String
  | [] => ""
  | argument :: others => "<" ++ argument.text ++ textOfOthers others ++ ">"

end ValueType

end Rekindle
