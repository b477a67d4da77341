import Rekindle.Image.Primitive
import Rekindle.Symbols

/-!
# Modules and symbols in bytes

Every declaration is written as its parts in order, and a choice between alternatives as the number
of the alternative followed by its parts. The readers undo the writers part by part.
-/

namespace Rekindle.Image

def writeTypeId (id : TypeId) : List UInt8 := writeUInt32 id.index

def readTypeId : Reader TypeId := do return ⟨← readUInt32⟩

def writeFieldId (id : FieldId) : List UInt8 := writeUInt32 id.index

def readFieldId : Reader FieldId := do return ⟨← readUInt32⟩

def writeRoutineId (id : RoutineId) : List UInt8 := writeUInt32 id.index

def readRoutineId : Reader RoutineId := do return ⟨← readUInt32⟩

mutual

def writeValueType : ValueType → List UInt8
  | .void => writeNat 0
  | .bool => writeNat 1
  | .int32 => writeNat 2
  | .int64 => writeNat 3
  | .float64 => writeNat 4
  | .string => writeNat 5
  | .object => writeNat 6
  | .callback => writeNat 7
  | .pointer target => writeNat 8 ++ writeValueType target
  | .defined type arguments =>
    writeNat 9 ++ writeTypeId type ++ (writeNat arguments.length ++ writeValueTypes arguments)
  | .parameter index => writeNat 10 ++ writeUInt16 index
  | .foreign name => writeNat 11 ++ writeText name

def writeValueTypes : List ValueType → List UInt8
  | [] => []
  | type :: types => writeValueType type ++ writeValueTypes types

end

def readValueTypeWithin : (depth : Nat) → Reader ValueType
  | 0 => fail
  | depth + 1 => do
    match ← readNat 4 with
    | 0 => return .void
    | 1 => return .bool
    | 2 => return .int32
    | 3 => return .int64
    | 4 => return .float64
    | 5 => return .string
    | 6 => return .object
    | 7 => return .callback
    | 8 => return .pointer (← readValueTypeWithin depth)
    | 9 =>
      let type ← readTypeId
      let arguments ← readList (readValueTypeWithin depth)
      return .defined type arguments
    | 10 => return .parameter (← readUInt16)
    | 11 => return .foreign (← readText)
    | _ => fail

/-- Reads a value type. Every level of nesting takes at least one byte. -/
def readValueType : Reader ValueType := fun bytes => readValueTypeWithin bytes.length bytes

def writeBinding : Binding → List UInt8
  | .direct => writeNat 0
  | .instantiated arguments => writeNat 1 ++ writeList writeValueType arguments

def readBinding : Reader Binding := do
  match ← readNat 4 with
  | 0 => return .direct
  | 1 => return .instantiated (← readList readValueType)
  | _ => fail

def writeFieldRef (reference : FieldRef) : List UInt8 :=
  writeFieldId reference.field ++ writeBinding reference.binding

def readFieldRef : Reader FieldRef := do
  let field ← readFieldId
  let binding ← readBinding
  return { field, binding }

def writeRoutineRef (reference : RoutineRef) : List UInt8 :=
  writeRoutineId reference.routine ++ writeBinding reference.binding

def readRoutineRef : Reader RoutineRef := do
  let routine ← readRoutineId
  let binding ← readBinding
  return { routine, binding }

def writeConstant : Constant → List UInt8
  | .bool value => writeNat 0 ++ writeBool value
  | .int32 value => writeNat 1 ++ writeInt32 value
  | .int64 value => writeNat 2 ++ writeInt64 value
  | .float64 value => writeNat 3 ++ writeBinary64 value
  | .string value => writeNat 4 ++ writeText value

def readConstant : Reader Constant := do
  match ← readNat 4 with
  | 0 => return .bool (← readBool)
  | 1 => return .int32 (← readInt32)
  | 2 => return .int64 (← readInt64)
  | 3 => return .float64 (← readBinary64)
  | 4 => return .string (← readText)
  | _ => fail

def writeProperty (property : Property) : List UInt8 :=
  writeText property.name ++ writeConstant property.value

def readProperty : Reader Property := do
  let name ← readText
  let value ← readConstant
  return { name, value }

def writeAttribute (attached : Attribute) : List UInt8 :=
  writeText attached.typeName ++ writeList writeProperty attached.properties

def readAttribute : Reader Attribute := do
  let typeName ← readText
  let properties ← readList readProperty
  return { typeName, properties }

def writeInstruction : Instruction → List UInt8
  | .nop => writeNat 0
  | .ret => writeNat 1
  | .pop => writeNat 2
  | .dup => writeNat 3
  | .loadNull => writeNat 4
  | .loadInt32 value => writeNat 5 ++ writeInt32 value
  | .loadInt64 value => writeNat 6 ++ writeInt64 value
  | .loadFloat64 value => writeNat 7 ++ writeBinary64 value
  | .loadString value => writeNat 8 ++ writeText value
  | .loadLocal slot => writeNat 9 ++ writeUInt16 slot
  | .storeLocal slot => writeNat 10 ++ writeUInt16 slot
  | .loadArgument slot => writeNat 11 ++ writeUInt16 slot
  | .loadField field => writeNat 12 ++ writeFieldRef field
  | .storeField field => writeNat 13 ++ writeFieldRef field
  | .loadFieldAddress field => writeNat 14 ++ writeFieldRef field
  | .storeDefault type => writeNat 15 ++ writeValueType type
  | .add => writeNat 16
  | .subtract => writeNat 17
  | .multiply => writeNat 18
  | .compareEqual => writeNat 19
  | .branch target => writeNat 20 ++ writeUInt32 target
  | .branchTrue target => writeNat 21 ++ writeUInt32 target
  | .branchFalse target => writeNat 22 ++ writeUInt32 target
  | .branchUnequal target => writeNat 23 ++ writeUInt32 target
  | .call routine => writeNat 24 ++ writeRoutineRef routine
  | .loadRoutine routine => writeNat 25 ++ writeRoutineRef routine
  | .newCallback => writeNat 26
  | .combineCallbacks => writeNat 27
  | .invokeCallback => writeNat 28
  | .compareExchange => writeNat 29
  | .throw => writeNat 30
  | .leave target => writeNat 31 ++ writeUInt32 target
  | .endFinally => writeNat 32

def readInstruction : Reader Instruction := do
  match ← readNat 4 with
  | 0 => return .nop
  | 1 => return .ret
  | 2 => return .pop
  | 3 => return .dup
  | 4 => return .loadNull
  | 5 => return .loadInt32 (← readInt32)
  | 6 => return .loadInt64 (← readInt64)
  | 7 => return .loadFloat64 (← readBinary64)
  | 8 => return .loadString (← readText)
  | 9 => return .loadLocal (← readUInt16)
  | 10 => return .storeLocal (← readUInt16)
  | 11 => return .loadArgument (← readUInt16)
  | 12 => return .loadField (← readFieldRef)
  | 13 => return .storeField (← readFieldRef)
  | 14 => return .loadFieldAddress (← readFieldRef)
  | 15 => return .storeDefault (← readValueType)
  | 16 => return .add
  | 17 => return .subtract
  | 18 => return .multiply
  | 19 => return .compareEqual
  | 20 => return .branch (← readUInt32)
  | 21 => return .branchTrue (← readUInt32)
  | 22 => return .branchFalse (← readUInt32)
  | 23 => return .branchUnequal (← readUInt32)
  | 24 => return .call (← readRoutineRef)
  | 25 => return .loadRoutine (← readRoutineRef)
  | 26 => return .newCallback
  | 27 => return .combineCallbacks
  | 28 => return .invokeCallback
  | 29 => return .compareExchange
  | 30 => return .throw
  | 31 => return .leave (← readUInt32)
  | 32 => return .endFinally
  | _ => fail

def writeHandlerKind : HandlerKind → List UInt8
  | .catching => writeNat 0
  | .finalizing => writeNat 1

def readHandlerKind : Reader HandlerKind := do
  match ← readNat 4 with
  | 0 => return .catching
  | 1 => return .finalizing
  | _ => fail

def writeHandler (handler : Handler) : List UInt8 :=
  writeHandlerKind handler.kind ++ writeUInt32 handler.tryStart ++ writeUInt32 handler.tryEnd ++
    writeUInt32 handler.handlerStart ++ writeUInt32 handler.handlerEnd

def readHandler : Reader Handler := do
  let kind ← readHandlerKind
  let tryStart ← readUInt32
  let tryEnd ← readUInt32
  let handlerStart ← readUInt32
  let handlerEnd ← readUInt32
  return { kind, tryStart, tryEnd, handlerStart, handlerEnd }

def writeBody (body : Body) : List UInt8 :=
  writeBool body.zeroesLocals ++ writeList writeValueType body.locals ++
    writeList writeInstruction body.instructions.toList ++ writeList writeHandler body.handlers

def readBody : Reader Body := do
  let zeroesLocals ← readBool
  let locals ← readList readValueType
  let instructions ← readList readInstruction
  let handlers ← readList readHandler
  return { zeroesLocals, locals, instructions := instructions.toArray, handlers }

def writeVisibility : Visibility → List UInt8
  | .everywhere => writeNat 0
  | .withinModule => writeNat 1
  | .withinType => writeNat 2

def readVisibility : Reader Visibility := do
  match ← readNat 4 with
  | 0 => return .everywhere
  | 1 => return .withinModule
  | 2 => return .withinType
  | _ => fail

def writeTypeDecl (type : TypeDecl) : List UInt8 :=
  writeText type.space ++ writeText type.name ++ writeVisibility type.visibility ++
    writeBool type.isAbstract ++ writeBool type.isSealed ++ writeList writeText type.parameters ++
    writeList writeAttribute type.attributes ++ writeOption writeTypeId type.outer ++
    writeList writeTypeId type.nested ++ writeList writeFieldId type.fields ++
    writeList writeRoutineId type.routines

def readTypeDecl : Reader TypeDecl := do
  let space ← readText
  let name ← readText
  let visibility ← readVisibility
  let isAbstract ← readBool
  let isSealed ← readBool
  let parameters ← readList readText
  let attributes ← readList readAttribute
  let outer ← readOption readTypeId
  let nested ← readList readTypeId
  let fields ← readList readFieldId
  let routines ← readList readRoutineId
  return { space, name, visibility, isAbstract, isSealed, parameters, attributes, outer, nested,
           fields, routines }

def writeFieldDecl (field : FieldDecl) : List UInt8 :=
  writeText field.name ++ writeTypeId field.owner ++ writeValueType field.type ++
    writeVisibility field.visibility ++ writeBool field.isStatic ++ writeBool field.isLiteral ++
    writeBool field.isReadOnly ++ writeOption writeConstant field.constant ++
    writeList writeAttribute field.attributes

def readFieldDecl : Reader FieldDecl := do
  let name ← readText
  let owner ← readTypeId
  let type ← readValueType
  let visibility ← readVisibility
  let isStatic ← readBool
  let isLiteral ← readBool
  let isReadOnly ← readBool
  let constant ← readOption readConstant
  let attributes ← readList readAttribute
  return { name, owner, type, visibility, isStatic, isLiteral, isReadOnly, constant, attributes }

def writeParameter (parameter : Parameter) : List UInt8 :=
  writeText parameter.name ++ writeValueType parameter.type

def readParameter : Reader Parameter := do
  let name ← readText
  let type ← readValueType
  return { name, type }

def writeRoutineDecl (routine : RoutineDecl) : List UInt8 :=
  writeText routine.name ++ writeTypeId routine.owner ++ writeVisibility routine.visibility ++
    writeBool routine.isStatic ++ writeBool routine.isSpecialName ++
    writeList writeParameter routine.parameters ++ writeValueType routine.result ++
    writeList writeText routine.typeParameters ++ writeList writeAttribute routine.attributes ++
    writeOption writeBody routine.body

def readRoutineDecl : Reader RoutineDecl := do
  let name ← readText
  let owner ← readTypeId
  let visibility ← readVisibility
  let isStatic ← readBool
  let isSpecialName ← readBool
  let parameters ← readList readParameter
  let result ← readValueType
  let typeParameters ← readList readText
  let attributes ← readList readAttribute
  let body ← readOption readBody
  return { name, owner, visibility, isStatic, isSpecialName, parameters, result, typeParameters,
           attributes, body }

def writeIdentity (identity : Identity) : List UInt8 := identity.toList

def readIdentity : Reader Identity := do
  let bytes ← takeBytes 16
  if sized : bytes.length = 16 then return ⟨bytes.toArray, by simpa using sized⟩
  else fail

def writeModule (module : Module) : List UInt8 :=
  writeText module.name ++ writeIdentity module.identity ++
    writeList writeText module.references ++ writeList writeTypeDecl module.types.toList ++
    writeList writeFieldDecl module.fields.toList ++
    writeList writeRoutineDecl module.routines.toList ++ writeList writeTypeId module.topLevel

def readModule : Reader Module := do
  let name ← readText
  let identity ← readIdentity
  let references ← readList readText
  let types ← readList readTypeDecl
  let fields ← readList readFieldDecl
  let routines ← readList readRoutineDecl
  let topLevel ← readList readTypeId
  return { name, identity, references, types := types.toArray, fields := fields.toArray,
           routines := routines.toArray, topLevel }

def writeLocation (location : Location) : List UInt8 :=
  writeText location.file ++ writeUInt32 location.line ++ writeUInt32 location.column

def readLocation : Reader Location := do
  let file ← readText
  let line ← readUInt32
  let column ← readUInt32
  return { file, line, column }

def writePoint (point : SequencePoint) : List UInt8 :=
  writeUInt32 point.offset ++ writeLocation point.location

def readPoint : Reader SequencePoint := do
  let offset ← readUInt32
  let location ← readLocation
  return { offset, location }

def writeEntry {α : Type} (write : α → List UInt8) (entry : UInt32 × α) : List UInt8 :=
  writeUInt32 entry.1 ++ write entry.2

def readEntry {α : Type} (read : Reader α) : Reader (UInt32 × α) := do
  let key ← readUInt32
  let value ← read
  return (key, value)

/-- The bytes of a table: its entries in ascending order. -/
def writeTable {α : Type} (write : α → List UInt8) (table : Table α) : List UInt8 :=
  writeList (writeEntry write) table.entries

/-- Reads a table. The entries may come in any order, and the last of each number counts. -/
def readTable {α : Type} (read : Reader α) : Reader (Table α) := do
  return Table.ofList (← readList (readEntry read))

def writeSymbols (symbols : Symbols) : List UInt8 :=
  writeIdentity symbols.identity ++ writeTable (writeList writePoint) symbols.routines ++
    writeTable writeLocation symbols.fields

def readSymbols : Reader Symbols := do
  let identity ← readIdentity
  let routines ← readTable (readList readPoint)
  let fields ← readTable readLocation
  return { identity, routines, fields }

end Rekindle.Image
