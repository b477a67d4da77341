import Mathlib.Data.Fintype.EquivFin
import Mathlib.Order.WellFounded
import Rekindle.Proofs.Indexing.Nesting

/-!
# Forests of types

The check of the nesting accepts exactly the modules whose types form a forest: the links between a
type and the type around it are kept on both sides, the types without such a link are those of the
top level, and no type is around itself, however far outwards. In a forest, following the lists of
nested types leads from exactly one type of the top level to each type.
-/

namespace Rekindle.Module

open Relation Validity Indexing

section Links

variable {module : Module}

/-- A type names another as the one around it. -/
def NamesOuter (module : Module) (inner outer : TypeId) : Prop :=
  ∃ type, module.type? inner = some type ∧ type.outer = some outer

/-- A type lists another as nested in it. -/
def ListsNested (module : Module) (outer inner : TypeId) : Prop :=
  ∃ type, module.type? outer = some type ∧ inner ∈ type.nested

/-- What makes the types of a module a forest. A type that names or lists another exists, so that
links kept on both sides lead nowhere but to types. -/
structure IsForest (module : Module) : Prop where
  topLevel : ∀ id ∈ module.topLevel, ∃ type, module.type? id = some type ∧ type.outer = none
  outermost : ∀ id type, module.type? id = some type → type.outer = none → id ∈ module.topLevel
  mirrored : ∀ inner outer, NamesOuter module inner outer → ListsNested module outer inner
  mirrors : ∀ outer inner, ListsNested module outer inner → NamesOuter module inner outer
  acyclic : ∀ id, ¬TransGen (NamesOuter module) id id

theorem NamesOuter.unique {inner outer other : TypeId} (names : NamesOuter module inner outer)
    (same : NamesOuter module inner other) : outer = other := by
  rcases names with ⟨type, declared, around⟩
  rcases same with ⟨type', declared', around'⟩
  rw [declared] at declared'
  cases declared'
  exact Option.some.inj (around.symm.trans around')

/-! ### Ways outwards -/

theorem NamesOuter.shorter {inner outer : TypeId} {chain : List TypeDecl}
    (outwards : TransGen (NamesOuter module) inner outer) (found : module.route inner = some chain) :
    ∃ rest, module.route outer = some rest ∧ rest.length < chain.length := by
  induction outwards with
  | single names =>
      rcases names with ⟨type, declared, around⟩
      exact route_of_outer declared around found
  | tail _ names ih =>
      rcases ih with ⟨middle, foundMiddle, less⟩
      rcases names with ⟨type, declared, around⟩
      rcases route_of_outer declared around foundMiddle with ⟨rest, foundRest, lessStill⟩
      exact ⟨rest, foundRest, Nat.lt_trans lessStill less⟩

/-- Where every way outwards ends, no type is around itself. -/
theorem acyclic_of_ends (ends : ∀ id type, module.type? id = some type → Ends module id)
    (id : TypeId) : ¬TransGen (NamesOuter module) id id := by
  intro around
  obtain ⟨type, declared⟩ : ∃ type, module.type? id = some type := by
    rcases TransGen.head'_iff.mp around with ⟨_, ⟨type, declared, _⟩, _⟩
    exact ⟨type, declared⟩
  rcases Option.isSome_iff_exists.mp (ends id type declared) with ⟨chain, found⟩
  rcases NamesOuter.shorter around found with ⟨rest, foundRest, less⟩
  rw [found] at foundRest
  cases foundRest
  exact Nat.lt_irrefl _ less

instance : Finite TypeId := by
  refine Finite.of_injective (fun id : TypeId => id.index.toFin) fun first second same => ?_
  exact TypeId.position_inj.mp (congrArg Fin.val same)

/-- Among types none of which is around itself, every way outwards ends. -/
theorem wellFounded_within {among : TypeId → Prop}
    (acyclic : ∀ id, among id → ¬TransGen (NamesOuter module) id id) :
    WellFounded fun outer inner => among inner ∧ NamesOuter module inner outer := by
  have transitive : IsTrans TypeId fun outer inner =>
      among inner ∧ TransGen (NamesOuter module) inner outer :=
    ⟨fun _ _ _ first second => ⟨second.1, second.2.trans first.2⟩⟩
  have irreflexive : Std.Irrefl fun outer inner =>
      among inner ∧ TransGen (NamesOuter module) inner outer :=
    ⟨fun id around => acyclic id around.1 around.2⟩
  exact Subrelation.wf (fun step => ⟨step.1, .single step.2⟩)
    (Finite.wellFounded_of_trans_of_irrefl fun outer inner =>
      among inner ∧ TransGen (NamesOuter module) inner outer)

theorem wellFounded_outwards (acyclic : ∀ id, ¬TransGen (NamesOuter module) id id) :
    WellFounded fun outer inner => NamesOuter module inner outer :=
  Subrelation.wf (fun names => ⟨trivial, names⟩)
    (wellFounded_within fun id (_ : True) => acyclic id)

theorem IsForest.ends (forest : IsForest module) (id : TypeId) (type : TypeDecl)
    (declared : module.type? id = some type) : Ends module id := by
  induction id using (wellFounded_outwards forest.acyclic).induction generalizing type with
  | _ id ih =>
      refine ends_of_outer declared fun outer around => ?_
      have names : NamesOuter module id outer := ⟨type, declared, around⟩
      rcases forest.mirrored id outer names with ⟨outerType, outerDeclared, _⟩
      exact ih outer names outerType outerDeclared

/-- The check of the nesting follows every way outwards to its end; that is as much as to say that
no way comes back. -/
theorem nested_iff_isForest : Nested module ↔ IsForest module := by
  constructor
  · intro nested
    refine ⟨nested.topLevel, fun id type declared => (nested.links id type declared).top_level,
      ?_, ?_, acyclic_of_ends nested.chains⟩
    · rintro inner outer ⟨type, declared, around⟩
      exact (nested.links inner type declared).nested_in outer around
    · rintro outer inner ⟨type, declared, listed⟩
      exact (nested.links outer type declared).nested inner listed
  · intro forest
    refine ⟨forest.topLevel, fun id type declared => ⟨?_, ?_, ?_⟩, forest.ends⟩
    · exact fun outer around => forest.mirrored id outer ⟨type, declared, around⟩
    · exact forest.outermost id type declared
    · exact fun inner listed => forest.mirrors id inner ⟨type, declared, listed⟩

/-! ### Ways inwards -/

theorem IsForest.outwards_of_inwards (forest : IsForest module) {outer inner : TypeId}
    (inwards : ReflTransGen (ListsNested module) outer inner) :
    ReflTransGen (NamesOuter module) inner outer := by
  rw [← reflTransGen_swap]
  exact ReflTransGen.mono forest.mirrors _ _ inwards

theorem IsForest.not_named (forest : IsForest module) {root outer : TypeId}
    (listed : root ∈ module.topLevel) : ¬NamesOuter module root outer := by
  rintro ⟨type, declared, around⟩
  rcases forest.topLevel root listed with ⟨type', declared', outermost⟩
  rw [declared] at declared'
  cases declared'
  rw [outermost] at around
  cases around

theorem IsForest.exists_root (forest : IsForest module) (id : TypeId)
    (inside : id.position < module.types.size) :
    ∃ root ∈ module.topLevel, ReflTransGen (ListsNested module) root id := by
  induction id using (wellFounded_outwards forest.acyclic).induction with
  | _ id ih =>
      rcases exists_type inside with ⟨type, declared⟩
      rcases link : type.outer with _ | outer
      · exact ⟨id, forest.outermost id type declared link, .refl⟩
      · have names : NamesOuter module id outer := ⟨type, declared, link⟩
        have lists : ListsNested module outer id := forest.mirrored id outer names
        rcases lists with ⟨outerType, outerDeclared, listed⟩
        rcases ih outer names (position_lt_of_type? outerDeclared) with ⟨root, isRoot, inwards⟩
        exact ⟨root, isRoot, inwards.tail ⟨outerType, outerDeclared, listed⟩⟩

theorem IsForest.root_unique (forest : IsForest module) {first second id : TypeId}
    (isRoot : first ∈ module.topLevel) (inwards : ReflTransGen (ListsNested module) first id)
    (isRoot' : second ∈ module.topLevel) (inwards' : ReflTransGen (ListsNested module) second id) :
    first = second := by
  have deterministic : Relator.RightUnique (NamesOuter module) :=
    fun _ _ _ names same => names.unique same
  -- Of two ways outwards from one type, one goes on where the other ends, and no way goes on from
  -- the top level.
  rcases ReflTransGen.total_of_right_unique deterministic (forest.outwards_of_inwards inwards)
    (forest.outwards_of_inwards inwards') with onwards | onwards
  · rcases onwards.cases_head with same | ⟨_, names, _⟩
    · exact same
    · exact absurd names (forest.not_named isRoot)
  · rcases onwards.cases_head with same | ⟨_, names, _⟩
    · exact same.symm
    · exact absurd names (forest.not_named isRoot')

/-- The check of the nesting accepts the modules whose types form a forest, and no others; so does
the check that marks the types whose way outwards it has followed. In a module that is accepted,
every type is reached through lists of nested types from exactly one type of the top level. -/
theorem nesting_accepts_forests (module : Module) :
    (Validity.checkNesting module = .ok () ↔ IsForest module) ∧
      (Indexing.checkNesting module = .ok () ↔ IsForest module) ∧
      (Validity.checkNesting module = .ok () → ∀ id : TypeId, id.position < module.types.size →
        ∃! root, root ∈ module.topLevel ∧ ReflTransGen (ListsNested module) root id) := by
  have accepts : Validity.checkNesting module = .ok () ↔ IsForest module :=
    checkNesting_eq_ok_iff.trans nested_iff_isForest
  refine ⟨accepts, ?_, fun accepted id inside => ?_⟩
  · rw [checkNesting_within, within, Fallible.mapError_eq_ok_iff]
    exact accepts
  · have forest := accepts.mp accepted
    rcases forest.exists_root id inside with ⟨root, isRoot, inwards⟩
    refine ⟨root, ⟨isRoot, inwards⟩, fun other ⟨isRoot', inwards'⟩ => ?_⟩
    exact forest.root_unique isRoot' inwards' isRoot inwards

end Links

/-! ### Types listed twice -/

namespace Cupboard

/-- A cupboard with a shelf and a box on it, and a chair. The shelf and the chair are listed
twice. -/
def module : Module where
  name := "app"
  identity := Vector.replicate 16 0
  references := []
  types := #[
    { TypeDecl.named "Cupboard" with nested := [⟨1⟩, ⟨1⟩] },
    { TypeDecl.named "Shelf" with outer := some ⟨0⟩, nested := [⟨2⟩] },
    { TypeDecl.named "Box" with outer := some ⟨1⟩ },
    TypeDecl.named "Chair"]
  fields := #[]
  routines := #[]
  topLevel := [⟨3⟩, ⟨0⟩, ⟨3⟩]

theorem accepted : Validity.checkNesting module = .ok () := by cbv

end Cupboard

/-- Listing a type twice does no harm: the box is still in one piece of furniture. -/
theorem nesting_accepts_forests_cupboard :
    Validity.checkNesting Cupboard.module = .ok () ∧ IsForest Cupboard.module ∧
      ∃! root, root ∈ Cupboard.module.topLevel ∧
        ReflTransGen (ListsNested Cupboard.module) root ⟨2⟩ := by
  rcases nesting_accepts_forests Cupboard.module with ⟨accepts, _, roots⟩
  have inside : (⟨2⟩ : TypeId).position < Cupboard.module.types.size := by decide
  exact ⟨Cupboard.accepted, accepts.mp Cupboard.accepted, roots Cupboard.accepted ⟨2⟩ inside⟩

end Rekindle.Module
