import Rekindle.Machine.Trap

/-!
# Operands

The operand stack of one frame. It holds a limited number of values, and taking more than it holds
names the routine that tried.
-/

namespace Rekindle.Machine

/-- The operands of a frame. -/
structure Operands where
  /-- The operand that was pushed last comes first. -/
  values : List Value
deriving DecidableEq, Repr, Inhabited

namespace Operands

def empty : Operands := ⟨[]⟩

def height (operands : Operands) : Nat := operands.values.length

def isEmpty (operands : Operands) : Bool := operands.values.isEmpty

def push (operands : Operands) (value : Value) : Except Trap Operands :=
  if operands.height < operandLimit then .ok ⟨value :: operands.values⟩
  else .error .stackOverflow

def pop (operands : Operands) (routine : String) : Except Trap (Value × Operands) :=
  match operands.values with
  | [] => .error (.stackUnderflow routine)
  | value :: others => .ok (value, ⟨others⟩)

/-- Takes the last operands of a number, which come in the order they were pushed. -/
def popMany (operands : Operands) (count : Nat) (routine : String) :
    Except Trap (List Value × Operands) :=
  if operands.height < count then .error (.stackUnderflow routine)
  else .ok ((operands.values.take count).reverse, ⟨operands.values.drop count⟩)

theorem height_of_push {operands grown : Operands} {value : Value}
    (pushed : operands.push value = .ok grown) : grown.height = operands.height + 1 := by
  unfold push at pushed
  split at pushed
  · cases pushed
    simp [height]
  · cases pushed

theorem height_of_pop {operands left : Operands} {routine : String} {value : Value}
    (popped : operands.pop routine = .ok (value, left)) :
    operands.height = left.height + 1 := by
  unfold pop at popped
  split at popped
  · cases popped
  · rename_i split
    cases popped
    simp [height, split]

end Operands

end Rekindle.Machine
