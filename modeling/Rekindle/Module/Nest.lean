import Rekindle.Module.Basic

/-!
# The nest

Starting from the top level and following the lists of nested types, every type that is reached is
visited once: an outer type before the types nested in it, and a type's whole nest before its next
sibling. A type that is listed again is passed over, so a nest that loops or repeats does no harm.
-/

namespace Rekindle.Module

theorem count_unmarked_lt {marks : Array Bool} {position : Nat}
    (unmarked : marks[position]? = some false) :
    (marks.setIfInBounds position true).count false < marks.count false := by
  obtain ⟨inside, value⟩ := Array.getElem?_eq_some_iff.mp unmarked
  have positive : 0 < marks.count false :=
    Array.count_pos_iff.mpr (value ▸ Array.getElem_mem inside)
  rw [Array.setIfInBounds_def, dif_pos inside, Array.count_set inside, value]
  simp only [beq_self_eq_true, if_true, Bool.true_beq, Bool.false_eq_true, if_false]
  omega

def nestedIn (module : Module) (id : TypeId) : List TypeId :=
  match module.type? id with
  | some type => type.nested
  | none => []

/-- Visits the pending types that are not marked yet, and what is nested in them. -/
def visit (module : Module) (marks : Array Bool) (pending : List TypeId) : List TypeId :=
  match pending with
  | [] => []
  | id :: others =>
    match seen : marks[id.position]? with
    | some false =>
      have := count_unmarked_lt seen
      id :: visit module (marks.setIfInBounds id.position true) (module.nestedIn id ++ others)
    | some true | none => visit module marks others
termination_by (marks.count false, pending.length)

/-- The types that are reached from the top level, in the order of their visit. -/
def nestOrder (module : Module) : List TypeId :=
  module.visit (Array.replicate module.types.size false) module.topLevel

end Rekindle.Module
