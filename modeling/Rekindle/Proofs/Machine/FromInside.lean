import Rekindle.Proofs.Machine.Ahead
import Rekindle.Proofs.Registry.Wiring

/-!
# Members from inside their type

Inside a type a member is bound to the parameters of the type itself. That a validator accepts the
binding and that a running routine closes it to the arguments of its own frame are two views of one
fact: the binding lists every parameter once and in order. It does as long as the number of
parameters has sixteen bits, and no longer.
-/

namespace Rekindle.Module

open Machine Reload Validity

/-- A type with more parameters than can be named does not list them all. -/
theorem small_of_close {arity : Nat} {arguments : List ValueType} (matched : arguments.length = arity)
    (closes : (ownBinding arity).close arguments = arguments) : arity ≤ 65535 := by
  unfold ownBinding at closes
  split at closes
  · omega
  · have same := congrArg List.length closes
    simp only [Binding.close, Binding.arguments, ownParameters, List.length_map, List.length_range,
      matched] at same
    omega

/-- Every member of a type has one binding from inside. It is accepted inside the routines of the
type, and stands for the arguments of a frame of the type, exactly if the number of parameters has
sixteen bits. -/
theorem inside_binding_exact {module : Module} {owner : TypeId} {type : TypeDecl}
    (declared : module.type? owner = some type) :
    ∃ binding : Binding,
      (∀ id field, module.field? id = some field → field.owner = owner →
        module.bindField id .inside = .ok { field := id, binding }) ∧
      (∀ id routine, module.routine? id = some routine → routine.owner = owner →
        module.bindRoutine id .inside = .ok { routine := id, binding }) ∧
      (∀ context member,
        (arityOf module context owner >>= checkBinding module context member owner binding) =
            .ok () ↔
          type.arity ≤ 65535) ∧
      (∀ arguments : List ValueType, arguments.length = type.arity →
        (binding.close arguments = arguments ↔ type.arity ≤ 65535)) := by
  refine ⟨ownBinding type.arity, ?_, ?_, ?_, ?_⟩
  · rintro id field found rfl
    exact bindField_inside found declared
  · rintro id routine found rfl
    exact bindRoutine_inside found declared
  · intro context member
    have arity : arityOf module context owner = .ok type.arity := by
      simp [arityOf, declared]
    rw [arity, Fallible.ok_bind, checkBinding_eq_ok_iff]
    exact ⟨small_of_ownBinding declared, ownBinding_fits declared⟩
  · intro arguments matched
    exact ⟨small_of_close matched, ownBinding_close matched.symm⟩

namespace Wide

def type (arity : Nat) : TypeDecl :=
  { TypeDecl.named "Wide" with
    parameters := List.replicate arity ""
    fields := [⟨0⟩]
    routines := [⟨0⟩] }

/-- A module whose only type has so many parameters, a field and a routine. -/
def module (arity : Nat) : Module :=
  { Module.empty "app" with
    types := #[type arity]
    fields := #[FieldDecl.static "count" .int32]
    routines := #[RoutineDecl.static "Run" .void .returning]
    topLevel := [⟨0⟩] }

theorem arity_type (arity : Nat) : (type arity).arity = arity :=
  List.length_replicate

theorem type?_module (arity : Nat) : (module arity).type? ⟨0⟩ = some (type arity) := rfl

theorem field?_module (arity : Nat) :
    (module arity).field? ⟨0⟩ = some (FieldDecl.static "count" .int32) := rfl

theorem routine?_module (arity : Nat) :
    (module arity).routine? ⟨0⟩ = some (RoutineDecl.static "Run" .void .returning) := rfl

theorem accepted_within :
    (module 65535).type? ⟨0⟩ = some (type 65535) ∧
    ∃ binding, (module 65535).bindField ⟨0⟩ .inside = .ok ⟨⟨0⟩, binding⟩ ∧
      (module 65535).bindRoutine ⟨0⟩ .inside = .ok ⟨⟨0⟩, binding⟩ ∧
      (arityOf (module 65535) "Wide::Run" ⟨0⟩ >>=
        checkBinding (module 65535) "Wide::Run" "Wide::count" ⟨0⟩ binding) = .ok () ∧
      binding.close (List.replicate 65535 .int32) = List.replicate 65535 .int32 := by
  have small : (type 65535).arity ≤ 65535 := by rw [arity_type]
  have matched : (List.replicate 65535 ValueType.int32).length = (type 65535).arity := by
    rw [arity_type, List.length_replicate]
  rcases inside_binding_exact (type?_module 65535) with
    ⟨binding, fields, routines, accepted, closes⟩
  exact ⟨type?_module _, binding, fields _ _ (field?_module _) rfl,
    routines _ _ (routine?_module _) rfl, (accepted _ _).mpr small, (closes _ matched).mpr small⟩

/-- With one parameter more than sixteen bits can count the binding names none of them. -/
theorem rejected_beyond :
    (module 65536).bindRoutine ⟨0⟩ .inside = .ok ⟨⟨0⟩, .instantiated []⟩ ∧
    (arityOf (module 65536) "Wide::Run" ⟨0⟩ >>=
        checkBinding (module 65536) "Wide::Run" "Wide::Run" ⟨0⟩ (.instantiated [])) =
      .error (.bindingArity "Wide::Run" "Wide::Run" 65536 0) ∧
    (Binding.instantiated []).close (List.replicate 65536 .int32) ≠ List.replicate 65536 .int32 := by
  have arity : arityOf (module 65536) "Wide::Run" ⟨0⟩ = .ok 65536 := by
    simp only [arityOf, type?_module, arity_type]
  have named : ownBinding (type 65536).arity = .instantiated [] := by
    rw [arity_type]
    rfl
  refine ⟨?_, ?_, ?_⟩
  · rw [bindRoutine_inside (routine?_module 65536) (type?_module 65536), ownRoutine, named]
  · rw [arity, Fallible.ok_bind, checkBinding, arity]
    rfl
  · intro same
    have lengths := congrArg List.length same
    rw [List.length_replicate] at lengths
    exact absurd lengths (by decide)

end Wide

end Rekindle.Module
