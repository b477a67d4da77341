import Rekindle.Attribute
import Rekindle.Reference

/-!
# Instructions

The instructions of the stack machine with their operands. A branch names the position of another
instruction of the same body. Besides its text, an instruction is known by its mnemonic, by whether
control may fall through to the next one, and by the branch target, field or routine it names.
-/

namespace Rekindle

/-- One instruction. -/
inductive Instruction where
  | nop
  | ret
  | pop
  | dup
  | loadNull
  | loadInt32 (value : Int32)
  | loadInt64 (value : Int64)
  | loadFloat64 (value : Binary64)
  | loadString (value : String)
  | loadLocal (slot : UInt16)
  | storeLocal (slot : UInt16)
  | loadArgument (slot : UInt16)
  | loadField (field : FieldRef)
  | storeField (field : FieldRef)
  | loadFieldAddress (field : FieldRef)
  /-- Stores the default of a type through the address on the stack. -/
  | storeDefault (type : ValueType)
  | add
  | subtract
  | multiply
  | compareEqual
  | branch (target : UInt32)
  | branchTrue (target : UInt32)
  | branchFalse (target : UInt32)
  | branchUnequal (target : UInt32)
  | call (routine : RoutineRef)
  | loadRoutine (routine : RoutineRef)
  | newCallback
  | combineCallbacks
  | invokeCallback
  /-- Takes an address, a value and what the place must hold to receive the value; leaves what it
  held. -/
  | compareExchange
  | throw
  | leave (target : UInt32)
  | endFinally
deriving DecidableEq, Repr, Inhabited

namespace Instruction

def mnemonic : Instruction → String
  | .nop => "nop"
  | .ret => "ret"
  | .pop => "pop"
  | .dup => "dup"
  | .loadNull => "ldnull"
  | .loadInt32 _ => "ldc.i4"
  | .loadInt64 _ => "ldc.i8"
  | .loadFloat64 _ => "ldc.r8"
  | .loadString _ => "ldstr"
  | .loadLocal _ => "ldloc"
  | .storeLocal _ => "stloc"
  | .loadArgument _ => "ldarg"
  | .loadField _ => "ldsfld"
  | .storeField _ => "stsfld"
  | .loadFieldAddress _ => "ldsflda"
  | .storeDefault _ => "initobj"
  | .add => "add"
  | .subtract => "sub"
  | .multiply => "mul"
  | .compareEqual => "ceq"
  | .branch _ => "br"
  | .branchTrue _ => "brtrue"
  | .branchFalse _ => "brfalse"
  | .branchUnequal _ => "bne.un"
  | .call _ => "call"
  | .loadRoutine _ => "ldftn"
  | .newCallback => "newcallback"
  | .combineCallbacks => "combine"
  | .invokeCallback => "invoke"
  | .compareExchange => "cmpxchg"
  | .throw => "throw"
  | .leave _ => "leave"
  | .endFinally => "endfinally"

def target? : Instruction → Option UInt32
  | .branch target | .branchTrue target | .branchFalse target | .branchUnequal target
  | .leave target => some target
  | _ => none

def field? : Instruction → Option FieldRef
  | .loadField field | .storeField field | .loadFieldAddress field => some field
  | _ => none

def routine? : Instruction → Option RoutineRef
  | .call routine | .loadRoutine routine => some routine
  | _ => none

def isBranch (instruction : Instruction) : Bool := instruction.target?.isSome

def endsBlock : Instruction → Bool
  | .ret | .branch _ | .throw | .leave _ | .endFinally => true
  | _ => false

/-- A position in a body, with at least four digits. -/
def offsetText (offset : Nat) : String :=
  let digits := Decimal.digitChars offset
  "IL_" ++ String.ofList (List.replicate (4 - digits.length) '0' ++ digits)

/-- The operand as it is written, absent for an instruction without one. -/
def operandText : Instruction → Option String
  | .loadInt32 value => some (toString value.toInt)
  | .loadInt64 value => some (toString value.toInt)
  | .loadFloat64 value => some (Decimal.Layout.value.text value)
  | .loadString value => some (Text.quoted value)
  | .loadLocal slot | .storeLocal slot | .loadArgument slot => some (toString slot.toNat)
  | .loadField field | .storeField field | .loadFieldAddress field => some field.text
  | .storeDefault type => some type.text
  | .call routine | .loadRoutine routine => some routine.text
  | .branch target | .branchTrue target | .branchFalse target | .branchUnequal target
  | .leave target => some (offsetText target.toNat)
  | .nop | .ret | .pop | .dup | .loadNull | .add | .subtract | .multiply | .compareEqual
  | .newCallback | .combineCallbacks | .invokeCallback | .compareExchange | .throw
  | .endFinally => none

def text (instruction : Instruction) : String :=
  match instruction.operandText with
  | some operand => instruction.mnemonic ++ " " ++ operand
  | none => instruction.mnemonic

end Instruction

end Rekindle
