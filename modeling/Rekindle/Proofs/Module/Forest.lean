import Rekindle.Proofs.Module.Extending
import Rekindle.Proofs.Validity.Valid

/-!
# The forest of a growing module

A type is declared after the type it is nested in. As long as both record this, in the type and in
the list of the type around it, the types around a type come to an end, whatever else is declared.
-/

namespace Rekindle.Module

open Validity

variable {module after : Module}

/-- The types form a forest in which a type stands after the one it is nested in. -/
structure Forest (module : Module) : Prop where
  topLevel : ∀ id ∈ module.topLevel, ∃ type, module.type? id = some type ∧ type.outer = none
  links : ∀ id type, module.type? id = some type → LinksFit module id type
  outward : ∀ id type outer, module.type? id = some type → type.outer = some outer →
    outer.position < id.position

theorem Forest.chains (forest : Forest module) {limit : Nat} {id : TypeId} {type : TypeDecl}
    (declared : module.type? id = some type) (enough : id.position < limit) :
    (module.outerChain limit id).isSome = true := by
  induction limit generalizing id type with
  | zero => omega
  | succ limit ih =>
      rw [outerChain, declared]
      rcases outer : type.outer with _ | around
      · simp [outer]
      · rcases (forest.links id type declared).nested_in around outer with ⟨_, known, _⟩
        have before : around.position < id.position := forest.outward id type around declared outer
        have ends := ih known (by omega)
        simpa [outer] using ends

theorem Forest.nested (forest : Forest module) : Nested module where
  topLevel := forest.topLevel
  links := forest.links
  chains _ _ declared := forest.chains declared (position_lt_of_type? declared)

theorem TypeAdded.type?_old {type before : TypeDecl} {id other : TypeId}
    (added : TypeAdded module after type id) (known : module.type? other = some before) :
    after.type? other = some before := by
  have inside := position_lt_of_type? known
  have apart : other ≠ id := by
    rintro rfl
    rw [added.position_eq] at inside
    omega
  rw [added.type?_eq, if_neg apart, known]

theorem TypeAdded.type?_cases {type later : TypeDecl} {id other : TypeId}
    (added : TypeAdded module after type id) (declared : after.type? other = some later) :
    (other = id ∧ later = { type with outer := none, nested := [], fields := [], routines := [] }) ∨
    module.type? other = some later := by
  rw [added.type?_eq] at declared
  by_cases new : other = id
  · rw [if_pos new] at declared
    cases declared
    exact .inl ⟨new, rfl⟩
  · rw [if_neg new] at declared
    exact .inr declared

theorem Forest.addType {type : TypeDecl} {id : TypeId} (forest : Forest module)
    (added : TypeAdded module after type id) : Forest after := by
  refine ⟨?_, ?_, ?_⟩
  · intro other listed
    rw [added.topLevel_eq, List.mem_append, List.mem_singleton] at listed
    rcases listed with old | rfl
    · rcases forest.topLevel other old with ⟨before, known, outermost⟩
      exact ⟨before, added.type?_old known, outermost⟩
    · exact ⟨_, by rw [added.type?_eq, if_pos rfl], rfl⟩
  · intro other later declared
    rcases added.type?_cases declared with ⟨rfl, rfl⟩ | known
    · refine ⟨by simp, fun _ => ?_, by simp⟩
      simp [added.topLevel_eq]
    · have links := forest.links other later known
      refine ⟨?_, ?_, ?_⟩
      · intro outer isOuter
        rcases links.nested_in outer isOuter with ⟨around, aroundKnown, listed⟩
        exact ⟨around, added.type?_old aroundKnown, listed⟩
      · intro outermost
        rw [added.topLevel_eq]
        exact List.mem_append_left _ (links.top_level outermost)
      · intro inner listed
        rcases links.nested inner listed with ⟨its, itsKnown, inside⟩
        exact ⟨its, added.type?_old itsKnown, inside⟩
  · intro other later outer declared isOuter
    rcases added.type?_cases declared with ⟨rfl, rfl⟩ | known
    · cases isOuter
    · exact forest.outward other later outer known isOuter

section NestedTypeAdded

variable {outer id : TypeId} {type : TypeDecl}

theorem NestedTypeAdded.type?_old (added : NestedTypeAdded module after outer type id)
    {other : TypeId} {before : TypeDecl} (known : module.type? other = some before) :
    after.type? other = some (if other = outer then
      { before with nested := before.nested ++ [id] } else before) := by
  have inside := position_lt_of_type? known
  have apart : other ≠ id := by
    rintro rfl
    rw [added.position_eq] at inside
    omega
  rw [added.type?_eq, if_neg apart]
  by_cases same : other = outer
  · subst same
    simp [known]
  · simp [same, known]

theorem NestedTypeAdded.type?_cases (added : NestedTypeAdded module after outer type id)
    {other : TypeId} {later : TypeDecl} (declared : after.type? other = some later) :
    (other = id ∧
      later = { type with outer := some outer, nested := [], fields := [], routines := [] }) ∨
    ∃ before, module.type? other = some before ∧ later = if other = outer then
      { before with nested := before.nested ++ [id] } else before := by
  rcases known : module.type? other with _ | before
  · rw [added.type?_eq] at declared
    by_cases new : other = id
    · rw [if_pos new] at declared
      cases declared
      exact .inl ⟨new, rfl⟩
    · rw [if_neg new] at declared
      by_cases same : other = outer
      · rw [if_pos same, ← same, known] at declared
        cases declared
      · rw [if_neg same, known] at declared
        cases declared
  · rw [added.type?_old known] at declared
    cases declared
    exact .inr ⟨before, rfl, rfl⟩

theorem Forest.addNestedType (forest : Forest module)
    (added : NestedTypeAdded module after outer type id) : Forest after := by
  refine ⟨?_, ?_, ?_⟩
  · intro other listed
    rw [added.topLevel_eq] at listed
    rcases forest.topLevel other listed with ⟨before, known, outermost⟩
    refine ⟨_, added.type?_old known, ?_⟩
    split <;> exact outermost
  · intro other later declared
    rcases added.type?_cases declared with ⟨rfl, rfl⟩ | ⟨before, known, rfl⟩
    · rcases added.outer_known with ⟨around, known⟩
      refine ⟨?_, by simp, by simp⟩
      rintro _ ⟨⟩
      exact ⟨_, added.type?_old known, by simp⟩
    · have links := forest.links other before known
      refine ⟨?_, ?_, ?_⟩
      · intro its isOuter
        have wasOuter : before.outer = some its := by
          split at isOuter <;> exact isOuter
        rcases links.nested_in its wasOuter with ⟨around, aroundKnown, listed⟩
        refine ⟨_, added.type?_old aroundKnown, ?_⟩
        split
        · exact List.mem_append_left _ listed
        · exact listed
      · intro outermost
        rw [added.topLevel_eq]
        apply links.top_level
        split at outermost <;> exact outermost
      · intro inner listed
        have origin : inner ∈ before.nested ∨ inner = id ∧ other = outer := by
          split at listed
          · next same =>
              simp only [List.mem_append, List.mem_singleton] at listed
              exact listed.imp_right fun equal => ⟨equal, same⟩
          · exact .inl listed
        rcases origin with old | ⟨rfl, rfl⟩
        · rcases links.nested inner old with ⟨its, itsKnown, inside⟩
          refine ⟨_, added.type?_old itsKnown, ?_⟩
          split <;> exact inside
        · exact ⟨_, by rw [added.type?_eq, if_pos rfl], rfl⟩
  · intro other later its declared isOuter
    rcases added.type?_cases declared with ⟨rfl, rfl⟩ | ⟨before, known, rfl⟩
    · cases isOuter
      rcases added.outer_known with ⟨around, known⟩
      have inside := position_lt_of_type? known
      rw [added.position_eq]
      exact inside
    · apply forest.outward other before its known
      split at isOuter <;> exact isOuter

end NestedTypeAdded

/-- Edits that only touch lists of members keep the forest. -/
theorem Forest.keep (forest : Forest module)
    (kept : ∀ id type, module.type? id = some type →
      ∃ later, after.type? id = some later ∧ later.outer = type.outer ∧ later.nested = type.nested)
    (nothingNew : ∀ id type, after.type? id = some type → ∃ before, module.type? id = some before)
    (topLevel : after.topLevel = module.topLevel) : Forest after := by
  have cases : ∀ id later, after.type? id = some later → ∃ before,
      module.type? id = some before ∧ later.outer = before.outer ∧
      later.nested = before.nested := by
    intro id later declared
    rcases nothingNew id later declared with ⟨before, known⟩
    rcases kept id before known with ⟨same, sameDeclared, sameOuter, sameNested⟩
    rw [declared] at sameDeclared
    cases sameDeclared
    exact ⟨before, known, sameOuter, sameNested⟩
  refine ⟨?_, ?_, ?_⟩
  · intro id listed
    rw [topLevel] at listed
    rcases forest.topLevel id listed with ⟨before, known, outermost⟩
    rcases kept id before known with ⟨later, declared, sameOuter, _⟩
    exact ⟨later, declared, sameOuter.trans outermost⟩
  · intro id later declared
    rcases cases id later declared with ⟨before, known, sameOuter, sameNested⟩
    have links := forest.links id before known
    refine ⟨?_, ?_, ?_⟩
    · intro outer isOuter
      rcases links.nested_in outer (sameOuter ▸ isOuter) with ⟨around, aroundKnown, listed⟩
      rcases kept outer around aroundKnown with ⟨aroundLater, aroundDeclared, _, nested⟩
      exact ⟨aroundLater, aroundDeclared, nested ▸ listed⟩
    · intro outermost
      rw [topLevel]
      exact links.top_level (sameOuter ▸ outermost)
    · intro inner listed
      rcases links.nested inner (sameNested ▸ listed) with ⟨its, itsKnown, inside⟩
      rcases kept inner its itsKnown with ⟨itsLater, itsDeclared, itsOuter, _⟩
      exact ⟨itsLater, itsDeclared, itsOuter.trans inside⟩
  · intro id later outer declared isOuter
    rcases cases id later declared with ⟨before, known, sameOuter, _⟩
    exact forest.outward id before outer known (sameOuter ▸ isOuter)

end Rekindle.Module
