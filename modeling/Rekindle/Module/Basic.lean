import Rekindle.Body
import Rekindle.Checksum.Blake3

/-!
# Modules

A module holds its types, fields and routines in three tables that only grow. Types list their
members and the types nested in them by handle, and members name the type that declares them. The
tables may be inconsistent: nothing here assumes that a handle leads anywhere.
-/

namespace Rekindle

/-- The sixteen bytes that tie a module to its debug symbols. -/
abbrev Identity := Vector UInt8 16

namespace Identity

/-- The identity that belongs to a seed: the first bytes of its hash. -/
def ofSeed (seed : List UInt8) : Identity :=
  (Checksum.Blake3.digest seed).take 16

def ofName (name : String) : Identity :=
  ofSeed name.toByteArray.data.toList

/-- A byte as two digits of base sixteen. -/
def byteText (byte : UInt8) : String :=
  String.ofList [Nat.digitChar (byte.toNat / 16), Nat.digitChar (byte.toNat % 16)]

def text (identity : Identity) : String :=
  String.join (identity.toList.map byteText)

end Identity

/-- From where a declaration can be used. -/
inductive Visibility where
  | everywhere
  | withinModule
  | withinType
deriving DecidableEq, Repr, Inhabited

def Visibility.text : Visibility → String
  | .everywhere => "public"
  | .withinModule => "internal"
  | .withinType => "private"

/-- A declared type. -/
structure TypeDecl where
  space : String
  name : String
  visibility : Visibility
  isAbstract : Bool
  isSealed : Bool
  /-- The names of the parameters, none for a type that is not generic. -/
  parameters : List String
  attributes : List Attribute
  /-- The type this one is nested in. -/
  outer : Option TypeId
  nested : List TypeId
  fields : List FieldId
  routines : List RoutineId
deriving DecidableEq, Repr, Inhabited

namespace TypeDecl

def arity (type : TypeDecl) : Nat := type.parameters.length

def isGeneric (type : TypeDecl) : Bool := !type.parameters.isEmpty

/-- A type of the outermost space that everyone can use and that has no members. -/
def named (name : String) : TypeDecl where
  space := ""
  name
  visibility := .everywhere
  isAbstract := false
  isSealed := false
  parameters := []
  attributes := []
  outer := none
  nested := []
  fields := []
  routines := []

end TypeDecl

/-- A declared field. -/
structure FieldDecl where
  name : String
  owner : TypeId
  type : ValueType
  visibility : Visibility
  isStatic : Bool
  /-- Whether the field is a constant known when the module is compiled, which has no storage. -/
  isLiteral : Bool
  /-- Whether the field may be written only while its type is initialized. -/
  isReadOnly : Bool
  constant : Option Constant
  attributes : List Attribute
deriving DecidableEq, Repr, Inhabited

namespace FieldDecl

def static (name : String) (type : ValueType) : FieldDecl where
  name
  owner := ⟨0⟩
  type
  visibility := .everywhere
  isStatic := true
  isLiteral := false
  isReadOnly := false
  constant := none
  attributes := []

/-- Whether a field has storage of its own in every instantiation of its type. -/
def hasStorage (field : FieldDecl) : Bool := field.isStatic && !field.isLiteral

end FieldDecl

/-- A parameter of a routine. -/
structure Parameter where
  name : String
  type : ValueType
deriving DecidableEq, Repr, Inhabited

/-- A declared routine. -/
structure RoutineDecl where
  name : String
  owner : TypeId
  visibility : Visibility
  isStatic : Bool
  /-- Whether the name has a meaning for the runtime. -/
  isSpecialName : Bool
  parameters : List Parameter
  result : ValueType
  /-- The names of the routine's own type parameters. -/
  typeParameters : List String
  attributes : List Attribute
  body : Option Body
deriving DecidableEq, Repr, Inhabited

def initializerName : String := ".typeinit"

namespace RoutineDecl

def static (name : String) (result : ValueType) (body : Body) : RoutineDecl where
  name
  owner := ⟨0⟩
  visibility := .everywhere
  isStatic := true
  isSpecialName := false
  parameters := []
  result
  typeParameters := []
  attributes := []
  body := some body

def typeInitializer (body : Body) : RoutineDecl :=
  { static initializerName .void body with visibility := .withinType, isSpecialName := true }

def isInitializer (routine : RoutineDecl) : Bool :=
  routine.isStatic && routine.isSpecialName && routine.name = initializerName

def isGeneric (routine : RoutineDecl) : Bool := !routine.typeParameters.isEmpty

def returns (routine : RoutineDecl) : Bool := !routine.result.isVoid

end RoutineDecl

/-- A module. -/
structure Module where
  name : String
  identity : Identity
  /-- The names of the modules it refers to. -/
  references : List String
  types : Array TypeDecl
  fields : Array FieldDecl
  routines : Array RoutineDecl
  /-- The types that are not nested in another. -/
  topLevel : List TypeId
deriving DecidableEq, Repr, Inhabited

namespace Module

/-- The empty module of a name, which determines its identity. -/
def empty (name : String) : Module where
  name
  identity := Identity.ofName name
  references := []
  types := #[]
  fields := #[]
  routines := #[]
  topLevel := []

def type? (module : Module) (id : TypeId) : Option TypeDecl := module.types[id.position]?

def field? (module : Module) (id : FieldId) : Option FieldDecl := module.fields[id.position]?

def routine? (module : Module) (id : RoutineId) : Option RoutineDecl :=
  module.routines[id.position]?

def typeIds (module : Module) : List TypeId :=
  (List.range module.types.size).map TypeId.ofPosition

def fieldIds (module : Module) : List FieldId :=
  (List.range module.fields.size).map FieldId.ofPosition

def routineIds (module : Module) : List RoutineId :=
  (List.range module.routines.size).map RoutineId.ofPosition

end Module

/-- A handle that leads nowhere in its module. -/
inductive Dangling where
  | type (id : TypeId)
  | field (id : FieldId)
  | routine (id : RoutineId)
deriving DecidableEq, Repr, Inhabited

def Dangling.text : Dangling → String
  | .type id => id.text
  | .field id => id.text
  | .routine id => id.text

end Rekindle
