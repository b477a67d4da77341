import Mathlib.Data.Fintype.EquivFin
import Rekindle.Module.Names
import Rekindle.Proofs.Module.Tables

/-!
# Routes outwards

The types around a type, as far as they end, are found by following the links outwards at most as
often as there are types. Counting suffices for that: on a longer way there would be a type at every
distance from its end, more of them than the module has. So a type has a route outwards if and only
if the type around it has one, and the route of the outer type is shorter.
-/

namespace Rekindle.Module

variable {module : Module} {id outer : TypeId} {type : TypeDecl} {chain : List TypeDecl}

/-- Outwards there is the type alone if it is nested in none, and else what is around it as well. -/
theorem outerChain_succ_eq_some_iff {limit : Nat} :
    module.outerChain (limit + 1) id = some chain ↔ ∃ type, module.type? id = some type ∧
      (type.outer = none ∧ chain = [type] ∨ ∃ outer rest, type.outer = some outer ∧
        module.outerChain limit outer = some rest ∧ chain = type :: rest) := by
  rw [outerChain]
  rcases declared : module.type? id with _ | type
  · simp
  · rcases around : type.outer with _ | outer
    · simp [around, eq_comm]
    · simp [around, eq_comm]

theorem outerChain_mono {limit more : Nat} (found : module.outerChain limit id = some chain)
    (enough : limit ≤ more) : module.outerChain more id = some chain := by
  induction limit generalizing id more chain with
  | zero => cases found
  | succ limit ih =>
      cases more with
      | zero => omega
      | succ more =>
          rcases outerChain_succ_eq_some_iff.mp found with
            ⟨type, declared, outermost | ⟨outer, rest, around, foundRest, rfl⟩⟩
          · exact outerChain_succ_eq_some_iff.mpr ⟨type, declared, .inl outermost⟩
          · have further := ih foundRest (Nat.le_of_succ_le_succ enough)
            exact outerChain_succ_eq_some_iff.mpr
              ⟨type, declared, .inr ⟨outer, rest, around, further, rfl⟩⟩

theorem outerChain_length {limit : Nat} (found : module.outerChain limit id = some chain) :
    module.outerChain chain.length id = some chain := by
  induction limit generalizing id chain with
  | zero => cases found
  | succ limit ih =>
      rcases outerChain_succ_eq_some_iff.mp found with
        ⟨type, declared, ⟨outermost, rfl⟩ | ⟨outer, rest, around, foundRest, rfl⟩⟩
      · exact outerChain_succ_eq_some_iff.mpr ⟨type, declared, .inl ⟨outermost, rfl⟩⟩
      · exact outerChain_succ_eq_some_iff.mpr
          ⟨type, declared, .inr ⟨outer, rest, around, ih foundRest, rfl⟩⟩

/-- On the way outwards there is a type at every distance from the end. -/
theorem exists_outerChain_of_le {limit distance : Nat}
    (found : module.outerChain limit id = some chain) (positive : 0 < distance)
    (below : distance ≤ chain.length) :
    ∃ other part, other.position < module.types.size ∧ module.outerChain limit other = some part ∧
      part.length = distance := by
  induction limit generalizing id chain with
  | zero => cases found
  | succ limit ih =>
      rcases outerChain_succ_eq_some_iff.mp found with
        ⟨type, declared, ⟨_, rfl⟩ | ⟨outer, rest, _, foundRest, rfl⟩⟩
      · refine ⟨id, _, position_lt_of_type? declared, found, ?_⟩
        simp only [List.length_singleton] at below ⊢
        omega
      · by_cases here : distance = rest.length + 1
        · exact ⟨id, _, position_lt_of_type? declared, found, by simp [here]⟩
        · rw [List.length_cons] at below
          rcases ih foundRest (by omega) with ⟨other, part, otherInside, foundPart, length⟩
          exact ⟨other, part, otherInside, outerChain_mono foundPart (by omega), length⟩

theorem outerChain_length_le {limit : Nat} (found : module.outerChain limit id = some chain) :
    chain.length ≤ module.types.size := by
  have each (index : Fin chain.length) : ∃ place : Fin module.types.size, ∃ other part,
      other.position = (place : Nat) ∧ module.outerChain limit other = some part ∧
        part.length = index + 1 := by
    rcases exists_outerChain_of_le found (Nat.succ_pos index) index.isLt with
      ⟨other, part, inside, foundPart, length⟩
    exact ⟨⟨other.position, inside⟩, other, part, rfl, foundPart, length⟩
  choose place other part atPlace foundPart length using each
  have injective : Function.Injective place := by
    intro first second same
    have sameType : other first = other second := by
      rw [← TypeId.position_inj, atPlace, atPlace, same]
    have samePart : part first = part second := by
      have foundFirst := foundPart first
      rw [sameType, foundPart second] at foundFirst
      exact (Option.some.inj foundFirst).symm
    have sameLength : (first : Nat) + 1 = second + 1 := by
      rw [← length first, ← length second, samePart]
    exact Fin.ext (by omega)
  simpa using Fintype.card_le_of_injective place injective

/-- The type, the type around it, and so on to a type that is nested in none, if that one is
reached at all. -/
def route (module : Module) (id : TypeId) : Option (List TypeDecl) :=
  module.outerChain module.types.size id

theorem route_of_outerChain {limit : Nat} (found : module.outerChain limit id = some chain) :
    module.route id = some chain :=
  outerChain_mono (outerChain_length found) (outerChain_length_le found)

theorem route_of_outermost (declared : module.type? id = some type)
    (outermost : type.outer = none) : module.route id = some [type] := by
  have once : module.outerChain 1 id = some [type] := by
    simp [outerChain, declared, outermost]
  exact route_of_outerChain once

theorem route_of_nested (declared : module.type? id = some type)
    (around : type.outer = some outer) : module.route id = (module.route outer).map (type :: ·) := by
  have step (limit : Nat) : module.outerChain (limit + 1) id =
      (module.outerChain limit outer).map (type :: ·) := by
    simp [outerChain, declared, around]
  unfold route
  rcases found : module.outerChain module.types.size outer with _ | rest
  · rcases longer : module.outerChain module.types.size id with _ | chain
    · rfl
    · have more := outerChain_mono longer (Nat.le_succ module.types.size)
      rw [step, found] at more
      cases more
  · have longer := step module.types.size
    rw [found] at longer
    exact route_of_outerChain longer

end Rekindle.Module
