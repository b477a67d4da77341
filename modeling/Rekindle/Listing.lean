import Rekindle.Module.Names
import Rekindle.Module.Nest

/-!
# Listings

A listing shows a module to a reader: its name and references, then every type of the nest with
its fields and routines, and every instruction with the name of the member it refers to. A type
that lists a member that does not exist cannot be shown.
-/

namespace Rekindle.Listing

def fieldLine (field : FieldDecl) : String :=
  "  field " ++ field.visibility.text ++ (if field.isStatic then " static" else "") ++
    (if field.isLiteral then " literal" else "") ++ (if field.isReadOnly then " readonly" else "") ++
    " " ++ field.type.text ++ " " ++ field.name ++
    (match field.constant with
      | some constant => " = " ++ constant.text
      | none => "") ++ "\n"

def operandName (module : Module) (instruction : Instruction) : Option String :=
  match instruction.field? with
  | some reference => some (module.fieldName reference.field)
  | none => instruction.routine?.map fun reference => module.routineName reference.routine

def instructionLine (module : Module) (instruction : Instruction) (offset : Nat) : String :=
  "    " ++ Instruction.offsetText offset ++ ": " ++ instruction.text ++
    (match operandName module instruction with
      | some name => "  // " ++ name
      | none => "") ++ "\n"

def handlerWord : HandlerKind → String
  | .catching => "Catch"
  | .finalizing => "Finally"

def handlerLine (handler : Handler) : String :=
  let offset (n : UInt32) : String := Instruction.offsetText n.toNat
  "    ." ++ handlerWord handler.kind ++ " try " ++ offset handler.tryStart ++ ".." ++
    offset handler.tryEnd ++ " handler " ++ offset handler.handlerStart ++ ".." ++
    offset handler.handlerEnd ++ "\n"

def bodyLines (module : Module) (body : Body) : String :=
  String.join (body.locals.zipIdx.map fun (type, slot) =>
    "    .local " ++ toString slot ++ " " ++ type.text ++ "\n") ++
  String.join (body.instructions.toList.zipIdx.map fun (instruction, offset) =>
    instructionLine module instruction offset) ++
  String.join (body.handlers.map handlerLine)

def routineLines (module : Module) (routine : RoutineDecl) : String :=
  "  method " ++ routine.visibility.text ++ (if routine.isStatic then " static" else "") ++ " " ++
    routine.result.text ++ " " ++ routine.name ++ "(" ++
    ", ".intercalate (routine.parameters.map fun parameter =>
      parameter.type.text ++ " " ++ parameter.name) ++ ")\n" ++
    String.join (routine.attributes.map fun attached => "    [" ++ attached.typeName ++ "]\n") ++
    (match routine.body with
      | some body => bodyLines module body
      | none => "")

def typeHead (module : Module) (id : TypeId) (type : TypeDecl) : String :=
  "\n" ++ type.visibility.text ++ " class " ++ module.fullName id ++
    (if type.isGeneric then "<" ++ ", ".intercalate type.parameters ++ ">" else "") ++ "\n" ++
    String.join (type.attributes.map fun attached => "  [" ++ attached.typeName ++ "]\n")

def typeLines (module : Module) (id : TypeId) : Except Dangling String :=
  match module.type? id with
  | none => .error (.type id)
  | some type => do
    let fields ← type.fields.mapM fun field =>
      match module.field? field with
      | some declared => .ok (fieldLine declared)
      | none => .error (.field field)
    let routines ← type.routines.mapM fun routine =>
      match module.routine? routine with
      | some declared => .ok (routineLines module declared)
      | none => .error (.routine routine)
    return typeHead module id type ++ String.join fields ++ String.join routines

def render (module : Module) : Except Dangling String := do
  let types ← module.nestOrder.mapM (typeLines module)
  return "module " ++ module.name ++ " (" ++ module.identity.text ++ ")\n" ++
    String.join (module.references.map fun name => "  reference " ++ name ++ "\n") ++
    String.join types

end Rekindle.Listing
