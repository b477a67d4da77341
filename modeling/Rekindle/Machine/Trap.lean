import Rekindle.Machine.Value
import Rekindle.Validity.Defect

/-!
# Traps

What can end a computation other than its return. A thrown value may be caught by the body it
passes through; every other trap ends the call of the host, unless an initializer ends first, which
keeps the trap as the reason of its failure.
-/

namespace Rekindle.Machine

def operandLimit : Nat := 1024

/-- What an instruction may refer to within its frame. -/
inductive Operand where
  | localSlot
  | argument
  | returnValue
  | staticSlot
deriving DecidableEq, Repr, Inhabited

def Operand.text : Operand → String
  | .localSlot => "local"
  | .argument => "argument"
  | .returnValue => "return value"
  | .staticSlot => "static slot"

/-- Why a computation ended without returning. -/
inductive Trap where
  | thrown (value : Value)
  | stackUnderflow (routine : String)
  | stackOverflow
  | typeMismatch (operation found : String)
  | nullReference (operation : String)
  | callDepthExceeded (limit : Nat)
  | unknownModule (handle : ModuleHandle)
  | unknownType (name : String)
  | unknownRoutine (name : String)
  | unknownField (name : String)
  | typeArity (member : String) (expected actual : Nat)
  | openTypeArgument (argument : ValueType)
  | argumentCount (routine : String) (expected actual : Nat)
  | typeInitializationFailed (type : String) (cause : Trap)
  /-- A clause that is run whether or not a value is thrown. -/
  | finalizingHandler
  | badReference (routine : String) (operand : Operand)
  | missingBody (routine : String)
  | controlLeftBody (routine : String)
  | slotOutOfRange (slot : Nat)
  /-- A module was not loaded because of a defect. -/
  | rejected (defect : Defect)
deriving DecidableEq, Repr, Inhabited

namespace Trap

def mismatch (operation : String) (found : Value) : Trap := .typeMismatch operation found.typeName

def message : Trap → String
  | .thrown value => "unhandled exception: " ++ value.text
  | .stackUnderflow routine => "stack underflow in " ++ routine
  | .stackOverflow => "operand stack overflow (limit " ++ toString operandLimit ++ ")"
  | .typeMismatch operation found => operation ++ ": unexpected " ++ found ++ " operand"
  | .nullReference operation => operation ++ ": null reference"
  | .callDepthExceeded limit => "maximum call depth " ++ toString limit ++ " exceeded"
  | .unknownModule handle => "unknown module handle " ++ toString handle.position
  | .unknownType name => "unknown type " ++ name
  | .unknownRoutine name => "unknown routine " ++ name
  | .unknownField name => "unknown field " ++ name
  | .typeArity member expected actual =>
    member ++ " expects " ++ toString expected ++ " type argument(s), got " ++ toString actual
  | .openTypeArgument argument => "type argument " ++ argument.text ++ " is not closed"
  | .argumentCount routine expected actual =>
    routine ++ " expects " ++ toString expected ++ " argument(s), got " ++ toString actual
  | .typeInitializationFailed type cause => "initializer of " ++ type ++ " failed: " ++ cause.message
  | .finalizingHandler => "unsupported: finally handlers"
  | .badReference routine operand =>
    "invalid program: " ++ routine ++ ": bad " ++ operand.text ++ " reference"
  | .missingBody routine => "invalid program: " ++ routine ++ " has no body"
  | .controlLeftBody routine => "invalid program: " ++ routine ++ ": control left the body"
  | .slotOutOfRange slot => "invalid program: static slot " ++ toString slot ++ " out of range"
  | .rejected defect => "module rejected: " ++ defect.message

end Trap

end Rekindle.Machine
