import Rekindle.Module.Names
import Rekindle.Validity.Defect

/-!
# Nesting

The types of a module must form a forest: what is listed at the top level is nested in nothing, the
links from a type to the type around it and the lists of nested types agree, and the
types around a type come to an end.
-/

namespace Rekindle.Validity

def checkTopLevel (module : Module) (id : TypeId) : Except Defect Unit :=
  match module.type? id with
  | none => .error (.danglingHandle "top-level types" id.text)
  | some type =>
    if type.outer.isSome then
      .error (.nesting id.text "listed as top-level but has a declaring type")
    else .ok ()

/-- Checks that the type around a type lists it, or that the top level does. -/
def checkOuter (module : Module) (id : TypeId) (type : TypeDecl) : Except Defect Unit :=
  match type.outer with
  | some outer =>
    match module.type? outer with
    | none => .error (.danglingHandle id.text outer.text)
    | some around =>
      if id ∈ around.nested then .ok ()
      else .error (.nesting id.text ("not listed among the nested types of " ++ outer.text))
  | none =>
    if id ∈ module.topLevel then .ok ()
    else .error (.nesting id.text "neither nested nor top-level")

def checkNestedEntry (module : Module) (id nested : TypeId) : Except Defect Unit :=
  match module.type? nested with
  | none => .error (.danglingHandle id.text nested.text)
  | some type =>
    if type.outer = some id then .ok ()
    else .error (.nesting id.text (nested.text ++ " does not name it as declaring type"))

/-- Checks the links between a type, the type around it and the types nested in it. -/
def checkLinks (module : Module) (id : TypeId) : Except Defect Unit :=
  match module.type? id with
  | none => .ok ()
  | some type => do
    checkOuter module id type
    type.nested.forM (checkNestedEntry module id)

def checkChain (module : Module) (id : TypeId) : Except Defect Unit :=
  if (module.outerChain module.types.size id).isSome then .ok ()
  else .error (.nesting id.text "declaring types form a cycle")

def checkNesting (module : Module) : Except Defect Unit := do
  module.topLevel.forM (checkTopLevel module)
  module.typeIds.forM (checkLinks module)
  module.typeIds.forM (checkChain module)

end Rekindle.Validity
