import Rekindle.Instruction

/-!
# Defects

What can be wrong with a module. A defect names where it was found, and tells the numbers or names
that disagree.
-/

namespace Rekindle

/-- What is wrong with a module. -/
inductive Defect where
  | danglingHandle (context handle : String)
  | nesting (context detail : String)
  | bindingArity (context member : String) (expected actual : Nat)
  | parameterOutOfRange (context : String) (index : UInt16) (arity : Nat)
  | notStatic (context member : String)
  | literalAccess (context field : String)
  | missingConstant (context field : String)
  | missingBody (context routine : String)
  | localOutOfRange (context : String) (slot : UInt16) (count : Nat)
  | argumentOutOfRange (context : String) (slot : UInt16) (count : Nat)
  | branchOutOfRange (context : String) (offset : Nat) (target : UInt32) (size : Nat)
  | invalidHandler (context : String) (index : Nat)
  | stackUnderflow (context : String) (offset : Nat)
  | stackMismatch (context : String) (offset expected actual : Nat)
  | invalidReturn (context : String) (offset height expected : Nat)
  | fallsOffEnd (context : String)
deriving DecidableEq, Repr, Inhabited

namespace Defect

def context : Defect → String
  | .danglingHandle context _ | .nesting context _ | .bindingArity context _ _ _
  | .parameterOutOfRange context _ _ | .notStatic context _ | .literalAccess context _
  | .missingConstant context _ | .missingBody context _ | .localOutOfRange context _ _
  | .argumentOutOfRange context _ _ | .branchOutOfRange context _ _ _
  | .invalidHandler context _ | .stackUnderflow context _ | .stackMismatch context _ _ _
  | .invalidReturn context _ _ _ | .fallsOffEnd context => context

def finding : Defect → String
  | .danglingHandle _ handle => "dangling reference to " ++ handle
  | .nesting _ detail => "inconsistent nesting: " ++ detail
  | .bindingArity _ member expected actual =>
    member ++ " bound with " ++ toString actual ++ " type argument(s), declaring type has " ++
      toString expected
  | .parameterOutOfRange _ index arity =>
    "generic parameter !" ++ toString index.toNat ++ " out of range (arity " ++
      toString arity ++ ")"
  | .notStatic _ member => member ++ " is not static"
  | .literalAccess _ field => "literal field " ++ field ++ " has no storage"
  | .missingConstant _ field => "literal field " ++ field ++ " has no constant value"
  | .missingBody _ routine => "routine " ++ routine ++ " has no body"
  | .localOutOfRange _ slot count =>
    "local " ++ toString slot.toNat ++ " out of range (" ++ toString count ++ " declared)"
  | .argumentOutOfRange _ slot count =>
    "argument " ++ toString slot.toNat ++ " out of range (" ++ toString count ++ " declared)"
  | .branchOutOfRange _ offset target size =>
    "branch at " ++ Instruction.offsetText offset ++ " targets " ++ toString target.toNat ++
      ", body has " ++ toString size ++ " instructions"
  | .invalidHandler _ index => "exception handler #" ++ toString index ++ " has an invalid range"
  | .stackUnderflow _ offset => "stack underflow at " ++ Instruction.offsetText offset
  | .stackMismatch _ offset expected actual =>
    "stack height at " ++ Instruction.offsetText offset ++ " is " ++ toString actual ++
      " on one path and " ++ toString expected ++ " on another"
  | .invalidReturn _ offset height expected =>
    "ret at " ++ Instruction.offsetText offset ++ " with stack height " ++ toString height ++
      ", expected " ++ toString expected
  | .fallsOffEnd _ => "control falls off the end of the body"

def message (defect : Defect) : String := defect.context ++ ": " ++ defect.finding

end Defect

end Rekindle
