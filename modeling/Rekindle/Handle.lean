/-!
# Handles

Types, fields and routines of a module are addressed by their position in the module's tables. A
handle is a number of its own kind, so that a field cannot be looked up among the types.
-/

namespace Rekindle

/-- The place of a type among the types of its module. -/
structure TypeId where
  index : UInt32
deriving DecidableEq, Hashable, Repr, Inhabited

/-- The place of a field among the fields of its module. -/
structure FieldId where
  index : UInt32
deriving DecidableEq, Hashable, Repr, Inhabited

/-- The place of a routine among the routines of its module. -/
structure RoutineId where
  index : UInt32
deriving DecidableEq, Hashable, Repr, Inhabited

namespace TypeId

def position (id : TypeId) : Nat := id.index.toNat

def ofPosition (position : Nat) : TypeId := ⟨UInt32.ofNat position⟩

def text (id : TypeId) : String := "type#" ++ toString id.position

end TypeId

namespace FieldId

def position (id : FieldId) : Nat := id.index.toNat

def ofPosition (position : Nat) : FieldId := ⟨UInt32.ofNat position⟩

def text (id : FieldId) : String := "field#" ++ toString id.position

end FieldId

namespace RoutineId

def position (id : RoutineId) : Nat := id.index.toNat

def ofPosition (position : Nat) : RoutineId := ⟨UInt32.ofNat position⟩

def text (id : RoutineId) : String := "method#" ++ toString id.position

end RoutineId

end Rekindle
