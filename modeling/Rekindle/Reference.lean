import Rekindle.ValueType

/-!
# References to members

A body names a field or a routine by its handle, together with the arguments of the type that
declares it. The arguments may mention the parameters of the type the body belongs to; closing
them against a frame's own arguments yields the instantiation that is meant.
-/

namespace Rekindle

/-- The arguments under which a member of a type is named. -/
inductive Binding where
  /-- The declaring type has no parameters. -/
  | direct
  /-- The declaring type is instantiated with these arguments. -/
  | instantiated (arguments : List ValueType)
deriving DecidableEq, Repr, Inhabited

namespace Binding

/-- The arguments, none for a direct binding. -/
def arguments : Binding → List ValueType
  | .direct => []
  | .instantiated arguments => arguments

def arity (binding : Binding) : Nat := binding.arguments.length

def close (binding : Binding) (frameArguments : List ValueType) : List ValueType :=
  binding.arguments.map (ValueType.substitute frameArguments)

end Binding

/-- A field under a binding of its declaring type. -/
structure FieldRef where
  field : FieldId
  binding : Binding
deriving DecidableEq, Repr, Inhabited

/-- A routine under a binding of its declaring type. -/
structure RoutineRef where
  routine : RoutineId
  binding : Binding
deriving DecidableEq, Repr, Inhabited

def FieldRef.text (reference : FieldRef) : String :=
  reference.field.text ++ ValueType.argumentsText reference.binding.arguments

def RoutineRef.text (reference : RoutineRef) : String :=
  reference.routine.text ++ ValueType.argumentsText reference.binding.arguments

/-- From where a member is referred to. -/
inductive Viewpoint where
  /-- From code of the declaring type itself, which runs once per instantiation. -/
  | inside
  /-- From elsewhere, with the arguments of one instantiation. -/
  | outside (arguments : List ValueType)
deriving DecidableEq, Repr, Inhabited

end Rekindle
