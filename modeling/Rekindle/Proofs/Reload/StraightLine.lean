import Rekindle.Proofs.Validity.Valid
import Rekindle.Reload.Hook

/-!
# Straight lines

Every body that hooking a type emits runs its instructions one after the other and returns. Such a
body has right heights when each instruction finds enough operands and nothing is left at the end.
-/

namespace Rekindle.Reload

open Validity

variable {module : Module} {arity : Nat} {routine : RoutineDecl}

/-- Whether control goes from an instruction to the next one and nowhere else. -/
def isPlain (instruction : Instruction) : Bool :=
  !instruction.endsBlock && instruction.target?.isNone

theorem successors_of_isPlain {instruction : Instruction} (plain : isPlain instruction = true)
    (offset after : Nat) : successors instruction offset after = [(offset + 1, after)] := by
  cases instruction <;> first | rfl | cases plain

/-- The height that instructions leave behind that are run one after the other. -/
def heightAfter (module : Module) : List Instruction → (height : Nat) → Option Nat
  | [], height => some height
  | instruction :: others, height =>
    if isPlain instruction ∧ pops module instruction ≤ height then
      heightAfter module others (height - pops module instruction + pushes module instruction)
    else none

theorem heightAfter_cons {instruction : Instruction} {others : List Instruction} {height : Nat}
    (plain : isPlain instruction = true) (enough : pops module instruction ≤ height) :
    heightAfter module (instruction :: others) height = heightAfter module others
      (height - pops module instruction + pushes module instruction) := by
  rw [heightAfter, if_pos ⟨plain, enough⟩]

theorem heightAfter_append (first second : List Instruction) (height : Nat) :
    heightAfter module (first ++ second) height =
      (heightAfter module first height).bind (heightAfter module second) := by
  induction first generalizing height with
  | nil => rfl
  | cons instruction others ih =>
      simp only [List.cons_append, heightAfter]
      split
      · exact ih _
      · rfl

theorem isPlain_of_heightAfter {instructions : List Instruction} {height final : Nat}
    (ends : heightAfter module instructions height = some final) :
    ∀ instruction ∈ instructions, isPlain instruction = true := by
  induction instructions generalizing height with
  | nil => simp
  | cons instruction others ih =>
      rw [heightAfter] at ends
      split at ends
      · rename_i demands
        intro other listed
        rcases List.mem_cons.mp listed with rfl | later
        · exact demands.1
        · exact ih ends other later
      · cases ends

theorem heightAfter_pair {first second : List Instruction}
    (levelFirst : heightAfter module first 0 = some 0)
    (levelSecond : heightAfter module second 0 = some 0) :
    heightAfter module (first ++ second) 0 = some 0 := by
  rw [heightAfter_append, levelFirst]
  exact levelSecond

/-- What the next instruction of a straight line demands and leaves behind. -/
theorem heightAfter_take {instructions : List Instruction} {offset height final : Nat}
    (ends : heightAfter module instructions 0 = some final)
    (known : heightAfter module (instructions.take offset) 0 = some height)
    (inside : offset < instructions.length) :
    isPlain instructions[offset] = true ∧ pops module instructions[offset] ≤ height ∧
      heightAfter module (instructions.take (offset + 1)) 0 =
        some (height - pops module instructions[offset] + pushes module instructions[offset]) := by
  have apart : instructions.take offset ++ instructions[offset] :: instructions.drop (offset + 1) =
      instructions := by
    rw [← List.drop_eq_getElem_cons inside, List.take_append_drop]
  have rest : heightAfter module (instructions[offset] :: instructions.drop (offset + 1)) height =
      some final := by
    rw [← apart, heightAfter_append, known] at ends
    exact ends
  have demands : isPlain instructions[offset] = true ∧
      pops module instructions[offset] ≤ height := by
    rw [heightAfter] at rest
    split at rest
    · assumption
    · cases rest
  refine ⟨demands.1, demands.2, ?_⟩
  rw [List.take_succ_eq_append_getElem inside, heightAfter_append, known]
  simp [heightAfter, demands]

namespace Hook

theorem straightLine_getElem? (instructions : List Instruction) (offset : Nat) :
    (straightLine instructions).instructions[offset]? =
      if offset = instructions.length then some .ret else instructions[offset]? := by
  simp only [straightLine, List.getElem?_toArray, List.getElem?_append]
  split
  · rw [if_neg (by omega)]
  · split
    · rename_i same
      simp [same]
    · rw [List.getElem?_eq_none (by simp; omega), List.getElem?_eq_none (by omega)]

/-- The heights of a straight line that ends at the empty stack, in a routine without a result. -/
theorem straightLine_balanced {instructions : List Instruction}
    (level : heightAfter module instructions 0 = some 0) (silent : routine.returns = false) :
    Balanced module routine (straightLine instructions) fun offset =>
      if offset ≤ instructions.length then heightAfter module (instructions.take offset) 0
      else none := by
  refine ⟨?_, ?_⟩
  · intro entry listed
    simp only [entries, straightLine, Body.returning, List.map_nil, List.reverse_nil,
      List.nil_append, List.mem_singleton] at listed
    subst listed
    simp [heightAfter]
  · intro offset height known
    simp only [Option.ite_none_right_eq_some] at known
    rcases known with ⟨inside, known⟩
    rcases Nat.eq_or_lt_of_le inside with last | early
    · subst last
      rw [List.take_length, level] at known
      cases known
      refine ⟨.ret, by simp [straightLine_getElem?], by simp [pops], ?_, ?_⟩
      · simp [resultHeight, silent]
      · simp [successors]
    · rcases heightAfter_take level known early with ⟨plain, enough, next⟩
      refine ⟨instructions[offset], ?_, enough, ?_, ?_⟩
      · rw [straightLine_getElem?, if_neg (by omega), List.getElem?_eq_getElem early]
      · intro isRet
        rw [isRet] at plain
        cases plain
      · rw [successors_of_isPlain plain]
        intro entry listed
        rw [List.mem_singleton] at listed
        subst listed
        simp only [Option.ite_none_right_eq_some]
        exact ⟨early, next⟩

/-- A routine whose body is a straight line that ends at the empty stack has no result, or its
heights are not right. -/
theorem straightLine_silent {instructions : List Instruction} {heights : Nat → Option Nat}
    (level : heightAfter module instructions 0 = some 0)
    (balanced : Balanced module routine (straightLine instructions) heights) :
    routine.returns = false := by
  have known : ∀ offset ≤ instructions.length,
      heights offset = heightAfter module (instructions.take offset) 0 := by
    intro offset inside
    induction offset with
    | zero =>
        have entered := balanced.entered (0, 0) (by simp [entries, straightLine, Body.returning])
        simpa [heightAfter] using entered
    | succ offset ih =>
        have early : offset < instructions.length := inside
        have before := ih (Nat.le_of_lt early)
        have prefixed := level
        rw [← List.take_append_drop offset instructions, heightAfter_append] at prefixed
        rcases Option.bind_eq_some_iff.mp prefixed with ⟨height, reached, _⟩
        rw [reached] at before
        rcases heightAfter_take level reached early with ⟨plain, _, next⟩
        rcases balanced.coherent offset height before with ⟨instruction, current, agrees⟩
        rw [straightLine_getElem?, if_neg (by omega), List.getElem?_eq_getElem early] at current
        cases current
        have follows := agrees.follows
        rw [successors_of_isPlain plain] at follows
        rw [next]
        exact follows _ (List.mem_singleton_self _)
  have last := known instructions.length (Nat.le_refl _)
  rw [List.take_length, level] at last
  rcases balanced.coherent _ 0 last with ⟨instruction, current, agrees⟩
  rw [straightLine_getElem?, if_pos rfl] at current
  cases current
  have result := agrees.returns rfl
  by_contra returns
  simp [resultHeight, returns] at result

theorem straightLine_fits {instructions : List Instruction}
    (level : heightAfter module instructions 0 = some 0) (silent : routine.returns = false)
    (operands : ∀ instruction ∈ instructions,
      OperandFits module arity routine (straightLine instructions) instruction) :
    BodyFits module arity routine (straightLine instructions) := by
  have instructions_eq : (straightLine instructions).instructions.toList =
      instructions ++ [.ret] := rfl
  refine ⟨?_, ?_, ?_, _, straightLine_balanced level silent⟩
  · intro type listed
    cases listed
  · intro instruction listed
    rw [instructions_eq] at listed
    rcases List.mem_append.mp listed with early | last
    · refine ⟨?_, operands instruction early⟩
      have plain := isPlain_of_heightAfter level instruction early
      intro target names
      simp [isPlain, names] at plain
    · cases List.mem_singleton.mp last
      exact ⟨by simp [Instruction.target?], trivial⟩
  · intro handler listed
    cases listed

end Hook

end Rekindle.Reload
