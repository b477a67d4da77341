import Rekindle.Proofs.Nest.Forest

/-!
# Full names

The full name of a type is read off the way down to it: the qualified name of the outermost type,
and the names of the types nested in it one after the other. The way is looked for outwards, for as
many steps as the module has types, which is enough for every way there is. A type has no such way
if a link outwards leads to no type or if the links come back to a type, and then its handle is its
name; in a module whose nesting is accepted every type has one.
-/

namespace Rekindle.Module

open Relation Validity Indexing

variable {module : Module} {id outer other : TypeId} {root type : TypeDecl}
  {down chain : List TypeDecl}

/-- The way down to a type: an outermost type and the types on the way from it, each nested in the
one before, of which the last is the type itself. -/
inductive Descends (module : Module) (root : TypeDecl) : List TypeDecl → TypeId → Prop where
  | outermost {id : TypeId} (declared : module.type? id = some root) (top : root.outer = none) :
    Descends module root [] id
  | nested {id outer : TypeId} {type : TypeDecl} {down : List TypeDecl}
    (declared : module.type? id = some type) (around : type.outer = some outer)
    (above : Descends module root down outer) : Descends module root (down ++ [type]) id

/-- The qualified name of an outermost type, followed by the names on a way down from it. -/
def nameDown (root : TypeDecl) (down : List TypeDecl) : String :=
  down.foldl (fun name type => name ++ "/" ++ type.name) (qualifiedName root)

theorem chainName_cons (type : TypeDecl) (around : List TypeDecl) (nonempty : around ≠ []) :
    chainName (type :: around) = chainName around ++ "/" ++ type.name := by
  cases around with
  | nil => exact absurd rfl nonempty
  | cons _ _ => rfl

theorem chainName_reverse (root : TypeDecl) (down : List TypeDecl) :
    chainName (down.reverse ++ [root]) = nameDown root down := by
  induction down using List.reverseRecOn with
  | nil => rfl
  | append_singleton down type ih =>
      rw [List.reverse_concat', List.cons_append, chainName_cons _ _ (by simp), ih]
      simp only [nameDown, List.foldl_append, List.foldl_cons, List.foldl_nil]

/-! ### Ways that end -/

theorem Descends.route (descends : Descends module root down id) :
    module.route id = some (down.reverse ++ [root]) := by
  induction descends with
  | outermost declared top => exact route_of_outermost declared top
  | nested declared around _ ih => simp [route_of_nested declared around, ih]

theorem descends_of_outerChain {limit : Nat} (found : module.outerChain limit id = some chain) :
    ∃ root down, Descends module root down id := by
  induction limit generalizing id chain with
  | zero => cases found
  | succ limit ih =>
      rcases outerChain_succ_eq_some_iff.mp found with
        ⟨type, declared, ⟨outermost, _⟩ | ⟨outer, rest, around, foundRest, _⟩⟩
      · exact ⟨type, [], .outermost declared outermost⟩
      · rcases ih foundRest with ⟨root, down, above⟩
        exact ⟨root, down ++ [type], .nested declared around above⟩

theorem ends_iff_descends : Ends module id ↔ ∃ root down, Descends module root down id := by
  constructor
  · intro ends
    rcases Option.isSome_iff_exists.mp ends with ⟨chain, found⟩
    exact descends_of_outerChain found
  · rintro ⟨root, down, descends⟩
    exact Option.isSome_iff_exists.mpr ⟨_, descends.route⟩

/-- A way down does not pass more types than there are. -/
theorem Descends.length_lt (descends : Descends module root down id) :
    down.length < module.types.size := by
  have bounded := outerChain_length_le descends.route
  simp only [List.length_append, List.length_reverse, List.length_singleton] at bounded
  omega

theorem Descends.fullName_eq (descends : Descends module root down id) :
    module.fullName id = nameDown root down := by
  have found : module.outerChain module.types.size id = some (down.reverse ++ [root]) :=
    descends.route
  rw [fullName, found]
  exact chainName_reverse root down

theorem fullName_of_not_ends (endless : ¬Ends module id) : module.fullName id = id.text := by
  have lost : module.outerChain module.types.size id = none :=
    Option.not_isSome_iff_eq_none.mp endless
  rw [fullName, lost]

/-- Looking further than there are types finds nothing more. -/
theorem outerChain_eq_route {limit : Nat} (enough : module.types.size ≤ limit) :
    module.outerChain limit id = module.route id := by
  rcases found : module.outerChain limit id with _ | chain
  · rcases ends : module.route id with _ | chain
    · rfl
    · have further := outerChain_mono ends enough
      rw [found] at further
      cases further
  · exact (route_of_outerChain found).symm

/-! ### Ways that do not end -/

/-- The links outwards from a type lead to a handle that is no type's. -/
def Strays (module : Module) (id : TypeId) : Prop :=
  ∃ last, ReflTransGen (NamesOuter module) id last ∧ module.type? last = none

/-- The links outwards from a type lead to one that is around itself. -/
def Circles (module : Module) (id : TypeId) : Prop :=
  ∃ again, ReflTransGen (NamesOuter module) id again ∧ TransGen (NamesOuter module) again again

theorem Descends.outwards (descends : Descends module root down id)
    (names : NamesOuter module id outer) : ∃ above, Descends module root above outer := by
  rcases names with ⟨type, declared, around⟩
  cases descends with
  | outermost declared' top =>
      cases declared.symm.trans declared'
      cases around.symm.trans top
  | nested declared' around' above =>
      cases declared.symm.trans declared'
      cases around.symm.trans around'
      exact ⟨_, above⟩

theorem Descends.further (descends : Descends module root down id)
    (outwards : ReflTransGen (NamesOuter module) id other) :
    ∃ above, Descends module root above other := by
  induction outwards with
  | refl => exact ⟨down, descends⟩
  | tail _ names ih =>
      rcases ih with ⟨_, middle⟩
      exact middle.outwards names

theorem Descends.not_strays (descends : Descends module root down id) : ¬Strays module id := by
  rintro ⟨last, outwards, lost⟩
  rcases descends.further outwards with ⟨_, above⟩
  cases above with
  | outermost declared _ => cases lost.symm.trans declared
  | nested declared _ _ => cases lost.symm.trans declared

theorem Descends.not_circles (descends : Descends module root down id) : ¬Circles module id := by
  rintro ⟨again, outwards, circle⟩
  rcases descends.further outwards with ⟨_, above⟩
  rcases NamesOuter.shorter circle above.route with ⟨rest, found, less⟩
  rw [above.route] at found
  cases found
  exact Nat.lt_irrefl _ less

theorem Strays.step (names : NamesOuter module id outer) (strays : Strays module outer) :
    Strays module id := by
  rcases strays with ⟨last, outwards, lost⟩
  exact ⟨last, outwards.head names, lost⟩

/-- Links that neither stray nor come back lead to an outermost type. -/
theorem ends_or_strays (openEnded : ¬Circles module id) : Ends module id ∨ Strays module id := by
  suffices ∀ other, ReflTransGen (NamesOuter module) id other →
      Ends module other ∨ Strays module other from this id .refl
  have acyclic : ∀ other, ReflTransGen (NamesOuter module) id other →
      ¬TransGen (NamesOuter module) other other :=
    fun other outwards circle => openEnded ⟨other, outwards, circle⟩
  intro other outwards
  induction other using (wellFounded_within acyclic).induction with
  | _ other ih =>
      rcases declared : module.type? other with _ | type
      · exact .inr ⟨other, .refl, declared⟩
      · rcases around : type.outer with _ | outer
        · refine .inl (ends_of_outer declared fun outer around' => ?_)
          cases around.symm.trans around'
        · have names : NamesOuter module other outer := ⟨type, declared, around⟩
          rcases ih outer ⟨outwards, names⟩ (outwards.tail names) with ends | strays
          · refine .inl (ends_of_outer declared fun outer' around' => ?_)
            cases around.symm.trans around'
            exact ends
          · exact .inr (strays.step names)

theorem not_ends_iff : ¬Ends module id ↔ Strays module id ∨ Circles module id := by
  constructor
  · intro endless
    by_cases circles : Circles module id
    · exact .inr circles
    · exact .inl ((ends_or_strays circles).resolve_left endless)
  · intro lost ends
    rcases ends_iff_descends.mp ends with ⟨root, down, descends⟩
    exact lost.elim descends.not_strays descends.not_circles

/-- The full name of a type with a way down to it is the name along that way. A handle without one,
because the links outwards stray or come back, stands for itself. No way passes more types than
there are, so that looking outwards for longer would change nothing. Where the nesting is accepted,
every type has a way down to it. -/
theorem fullName_exact (module : Module) (id : TypeId) :
    (∀ limit, module.types.size ≤ limit →
      module.outerChain limit id = module.outerChain module.types.size id) ∧
    (∀ root down, Descends module root down id →
      module.fullName id = nameDown root down ∧ down.length < module.types.size) ∧
    ((¬∃ root down, Descends module root down id) → module.fullName id = id.text) ∧
    ((¬∃ root down, Descends module root down id) ↔ Strays module id ∨ Circles module id) ∧
    (Validity.checkNesting module = .ok () → id.position < module.types.size →
      ∃ root down, Descends module root down id) := by
  rw [← ends_iff_descends]
  refine ⟨fun _ => outerChain_eq_route, fun root down descends => ?_, fullName_of_not_ends,
    not_ends_iff, fun accepted inside => ?_⟩
  · exact ⟨descends.fullName_eq, descends.length_lt⟩
  · rcases exists_type inside with ⟨type, declared⟩
    exact (checkNesting_eq_ok_iff.mp accepted).chains id type declared

end Rekindle.Module

/-! ### A house and a maze -/

namespace Rekindle.Module.House

open Relation

def room : TypeDecl := { TypeDecl.named "Room" with space := "House", nested := [⟨1⟩] }

def cabinet : TypeDecl := { TypeDecl.named "Cabinet" with outer := some ⟨0⟩, nested := [⟨2⟩] }

def drawer : TypeDecl := { TypeDecl.named "Drawer" with outer := some ⟨1⟩ }

/-- A module all of whose types are on one way down. -/
def module : Module where
  name := "app"
  identity := Vector.replicate 16 0
  references := []
  types := #[room, cabinet, drawer]
  fields := #[]
  routines := #[]
  topLevel := [⟨0⟩]

/-- A module where the hall leads into a circle of two rooms, and the annex to nowhere. -/
def maze : Module :=
  { module with
    types := #[{ TypeDecl.named "Hall" with outer := some ⟨1⟩ },
      { TypeDecl.named "Left" with outer := some ⟨2⟩ },
      { TypeDecl.named "Right" with outer := some ⟨1⟩ },
      { TypeDecl.named "Annex" with outer := some ⟨9⟩ }] }

theorem accepted : Validity.checkNesting module = .ok () := by cbv

theorem drawer_descends : Descends module room ([] ++ [cabinet] ++ [drawer]) ⟨2⟩ :=
  .nested rfl rfl (.nested rfl rfl (.outermost rfl rfl))

theorem hall_circles : Circles maze ⟨0⟩ := by
  have entered : NamesOuter maze ⟨0⟩ ⟨1⟩ := ⟨_, rfl, rfl⟩
  have onward : NamesOuter maze ⟨1⟩ ⟨2⟩ := ⟨_, rfl, rfl⟩
  have back : NamesOuter maze ⟨2⟩ ⟨1⟩ := ⟨_, rfl, rfl⟩
  exact ⟨⟨1⟩, .single entered, .tail (.single onward) back⟩

theorem annex_strays : Strays maze ⟨3⟩ :=
  ⟨⟨9⟩, .single ⟨_, rfl, rfl⟩, rfl⟩

theorem fullName_exact_house :
    module.fullName ⟨2⟩ = "House.Room/Cabinet/Drawer" ∧
    (∃ root down, Descends module root down ⟨1⟩) ∧
    maze.fullName ⟨0⟩ = "type#0" ∧ maze.fullName ⟨3⟩ = "type#3" := by
  refine ⟨?_, ?_, ?_, ?_⟩
  · rw [((fullName_exact module ⟨2⟩).2.1 _ _ drawer_descends).1]
    rfl
  · exact (fullName_exact module ⟨1⟩).2.2.2.2 accepted (by decide)
  · rcases fullName_exact maze ⟨0⟩ with ⟨_, _, stays, lost, _⟩
    exact stays (lost.mpr (.inr hall_circles))
  · rcases fullName_exact maze ⟨3⟩ with ⟨_, _, stays, lost, _⟩
    exact stays (lost.mpr (.inl annex_strays))

end Rekindle.Module.House
