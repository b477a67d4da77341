import Rekindle.Proofs.Module.Tables

/-!
# Growth

Editing keeps what there was: types keep everything but their lists of members, fields stay as they
are, and routines keep everything but their body, which is not taken away. So names that lead
somewhere keep leading there.
-/

namespace Rekindle.Module

/-- What a module still has after it was edited. -/
structure Grows (module after : Module) : Prop where
  types : ∀ id type, module.type? id = some type →
    ∃ fields routines, after.type? id = some { type with fields, routines }
  fields : ∀ id field, module.field? id = some field → after.field? id = some field
  routines : ∀ id routine, module.routine? id = some routine →
    ∃ body, after.routine? id = some { routine with body } ∧
      (routine.body.isSome = true → body.isSome = true)
  typeCount : module.types.size ≤ after.types.size

variable {module after last : Module}

theorem Grows.refl (module : Module) : Grows module module := by
  refine ⟨?_, ?_, ?_, Nat.le_refl _⟩
  · intro id type declared
    exact ⟨type.fields, type.routines, declared⟩
  · intro id field declared
    exact declared
  · intro id routine declared
    exact ⟨routine.body, declared, fun hasBody => hasBody⟩

theorem Grows.trans (first : Grows module after) (second : Grows after last) :
    Grows module last := by
  refine ⟨?_, ?_, ?_, Nat.le_trans first.typeCount second.typeCount⟩
  · intro id type declared
    rcases first.types id type declared with ⟨fields, routines, kept⟩
    rcases second.types id _ kept with ⟨lastFields, lastRoutines, keptAgain⟩
    exact ⟨lastFields, lastRoutines, keptAgain⟩
  · intro id field declared
    exact second.fields id field (first.fields id field declared)
  · intro id routine declared
    rcases first.routines id routine declared with ⟨body, kept, stays⟩
    rcases second.routines id _ kept with ⟨lastBody, keptAgain, staysAgain⟩
    refine ⟨lastBody, keptAgain, ?_⟩
    intro hasBody
    exact staysAgain (stays hasBody)

theorem RoutineAdded.grows {owner : TypeId} {routine : RoutineDecl} {id : RoutineId}
    (added : RoutineAdded module after owner routine id) : Grows module after := by
  refine ⟨?_, ?_, ?_, ?_⟩
  · intro other declared found
    rw [added.type?_eq]
    by_cases same : other = owner
    · subst same
      refine ⟨declared.fields, declared.routines ++ [id], ?_⟩
      simp [found]
    · refine ⟨declared.fields, declared.routines, ?_⟩
      rw [if_neg same]
      exact found
  · intro other field found
    rw [field?, added.fields_eq]
    exact found
  · intro other declared found
    have apart : other ≠ id := by
      rintro rfl
      have inside := position_lt_of_routine? found
      rw [added.position_eq] at inside
      omega
    refine ⟨declared.body, ?_, fun hasBody => hasBody⟩
    rw [added.routine?_eq, if_neg apart]
    exact found
  · simp [added.typeCount]

theorem RoutineChanged.grows {id : RoutineId} {routine : RoutineDecl} {body : Body}
    (declared : module.routine? id = some routine)
    (changed : RoutineChanged module after id { routine with body := some body }) :
    Grows module after := by
  refine ⟨?_, ?_, ?_, ?_⟩
  · intro other type found
    refine ⟨type.fields, type.routines, ?_⟩
    rw [type?, changed.types_eq]
    exact found
  · intro other field found
    rw [field?, changed.fields_eq]
    exact found
  · intro other before found
    rw [changed.routine?_eq]
    by_cases same : other = id
    · subst same
      rw [declared] at found
      cases found
      exact ⟨some body, by simp, fun _ => rfl⟩
    · refine ⟨before.body, ?_, fun hasBody => hasBody⟩
      rw [if_neg same]
      exact found
  · simp [changed.types_eq]

theorem Grows.outerChain (grows : Grows module after) {limit more : Nat} (enough : limit ≤ more)
    {id : TypeId} (ends : (module.outerChain limit id).isSome = true) :
    (after.outerChain more id).isSome = true := by
  induction limit generalizing more id with
  | zero => simp [Module.outerChain] at ends
  | succ limit ih =>
      cases more with
      | zero => omega
      | succ more =>
          rw [Module.outerChain] at ends ⊢
          rcases found : module.type? id with _ | type
          · simp [found] at ends
          · rcases grows.types id type found with ⟨fields, routines, kept⟩
            rcases outer : type.outer with _ | around
            · simp [kept, outer]
            · simp only [found, outer, Option.isSome_map] at ends
              simp only [kept, outer, Option.isSome_map]
              exact ih (by omega) ends

/-! ### Names -/

theorem chainName_eq {chain other : List TypeDecl}
    (kept : List.Forall₂ (fun type kept => ∃ fields routines, kept = { type with fields, routines })
      chain other) : chainName other = chainName chain := by
  induction kept with
  | nil => rfl
  | cons first others ih =>
      rcases first with ⟨fields, routines, rfl⟩
      cases others with
      | nil => rfl
      | cons _ _ => simp only [chainName, ih]

section Names

variable (types : ∀ id type, module.type? id = some type →
  ∃ fields routines, after.type? id = some { type with fields, routines })
include types

theorem outerChain_kept {limit more : Nat} (enough : limit ≤ more) {id : TypeId}
    {chain : List TypeDecl} (ends : module.outerChain limit id = some chain) :
    ∃ other, after.outerChain more id = some other ∧
      List.Forall₂ (fun type kept => ∃ fields routines, kept = { type with fields, routines })
        chain other := by
  induction limit generalizing more id chain with
  | zero => simp [outerChain] at ends
  | succ limit ih =>
      cases more with
      | zero => omega
      | succ more =>
          rw [outerChain] at ends ⊢
          rcases found : module.type? id with _ | type
          · simp [found] at ends
          · rcases types id type found with ⟨fields, routines, kept⟩
            simp only [found] at ends
            simp only [kept]
            rcases outer : type.outer with _ | around
            · simp only [outer, Option.some.injEq] at ends ⊢
              subst ends
              exact ⟨_, rfl, .cons ⟨fields, routines, by rw [outer]⟩ .nil⟩
            · simp only [outer, Option.map_eq_some_iff] at ends ⊢
              rcases ends with ⟨rest, restEnds, rfl⟩
              rcases ih (Nat.le_of_succ_le_succ enough) restEnds with ⟨other, otherEnds, same⟩
              exact ⟨_, ⟨other, otherEnds, rfl⟩, .cons ⟨fields, routines, by rw [outer]⟩ same⟩

/-- A type whose members alone have changed is called what it was. -/
theorem fullName_kept (count : module.types.size ≤ after.types.size) {id : TypeId}
    (ends : (module.outerChain module.types.size id).isSome = true) :
    after.fullName id = module.fullName id := by
  rcases Option.isSome_iff_exists.mp ends with ⟨chain, found⟩
  rcases outerChain_kept types count found with ⟨other, otherFound, kept⟩
  simp only [fullName, found, otherFound]
  exact chainName_eq kept

end Names

end Rekindle.Module
