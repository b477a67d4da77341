import Rekindle.Decimal.Layout
import Rekindle.Text.Quoted

/-!
# Attributes

Declarations carry attributes: the name of the attribute's type and a list of named constants. A
name may occur more than once; looking one up finds the first.
-/

namespace Rekindle

/-- A value that is known when a module is compiled. -/
inductive Constant where
  | bool (value : Bool)
  | int32 (value : Int32)
  | int64 (value : Int64)
  | float64 (value : Binary64)
  | string (value : String)
deriving DecidableEq, Repr, Inhabited

namespace Constant

def int32? : Constant → Option Int32
  | .int32 value => some value
  | _ => none

def text : Constant → String
  | .bool value => if value then "true" else "false"
  | .int32 value => toString value.toInt
  | .int64 value => toString value.toInt ++ "L"
  | .float64 value => Decimal.Layout.constant.text value
  | .string value => Text.quoted value

end Constant

/-- A named constant of an attribute. -/
structure Property where
  name : String
  value : Constant
deriving DecidableEq, Repr, Inhabited

/-- What is declared about a type, a field or a routine. -/
structure Attribute where
  /-- The full name of the attribute's type. -/
  typeName : String
  properties : List Property
deriving DecidableEq, Repr, Inhabited

namespace Attribute

def bare (typeName : String) : Attribute where
  typeName
  properties := []

def property? (attached : Attribute) (name : String) : Option Constant :=
  (attached.properties.find? (·.name = name)).map (·.value)

def find? (attributes : List Attribute) (typeName : String) : Option Attribute :=
  attributes.find? (·.typeName = typeName)

def has (attributes : List Attribute) (typeName : String) : Bool :=
  (find? attributes typeName).isSome

@[simp]
theorem has_eq_true_iff {attributes : List Attribute} {typeName : String} :
    has attributes typeName = true ↔ ∃ attached ∈ attributes, attached.typeName = typeName := by
  simp [has, find?]

end Attribute

end Rekindle
