import Rekindle.Proofs.Nest.Forest
import Rekindle.Proofs.Reload.Surveyed

/-!
# The order of the visits

Whatever the lists of nested types are like, the types that are visited are those that the top level
leads to. In a forest these are all types, and they are visited as one would read them: an outer
type before the types nested in it, and the whole nest of a type before its next sibling.
-/

namespace Rekindle.Module

open Relation Indexing

section Visits

variable {module : Module}

/-! ### Marks -/

/-- A type that exists and was not visited. -/
def Fresh (marks : Array Bool) (id : TypeId) : Prop :=
  marks[id.position]? = some false

/-- Notes visits, one after the other. -/
def marking (marks : Array Bool) (ids : List TypeId) : Array Bool :=
  ids.foldl (fun marks id => marks.setIfInBounds id.position true) marks

theorem fresh_replicate {id : TypeId} :
    Fresh (Array.replicate module.types.size false) id ↔ id.position < module.types.size := by
  rw [Fresh, Array.getElem?_replicate, Option.ite_none_right_eq_some, and_iff_left rfl]

theorem fresh_setIfInBounds {marks : Array Bool} {id other : TypeId} :
    Fresh (marks.setIfInBounds id.position true) other ↔ Fresh marks other ∧ other ≠ id := by
  unfold Fresh
  rw [Array.getElem?_setIfInBounds]
  by_cases same : id = other
  · subst same
    rw [if_pos rfl]
    split <;> simp
  · rw [if_neg fun places => same (TypeId.position_inj.mp places)]
    exact (and_iff_left (Ne.symm same)).symm

theorem fresh_marking {marks : Array Bool} {ids : List TypeId} {id : TypeId} :
    Fresh (marking marks ids) id ↔ Fresh marks id ∧ id ∉ ids := by
  induction ids generalizing marks with
  | nil => simp [marking]
  | cons first ids ih =>
      rw [marking, List.foldl_cons, ← marking, ih, fresh_setIfInBounds, List.mem_cons, not_or,
        and_assoc]

theorem visit_fresh {marks : Array Bool} {id : TypeId} (fresh : Fresh marks id)
    (others : List TypeId) :
    module.visit marks (id :: others) =
      id :: module.visit (marks.setIfInBounds id.position true) (module.nestedIn id ++ others) := by
  rw [visit]
  split
  · rfl
  · rename_i seen
    cases fresh.symm.trans seen
  · rename_i outside
    cases fresh.symm.trans outside

theorem visit_stale {marks : Array Bool} {id : TypeId} (stale : ¬Fresh marks id)
    (others : List TypeId) : module.visit marks (id :: others) = module.visit marks others := by
  rw [visit]
  split
  · rename_i unseen
    exact absurd unseen stale
  · rfl
  · rfl

/-- Visits follow the pending types: the next one is visited, with what is nested in it then coming
first, unless it was visited before or does not exist. -/
theorem visits_induct (module : Module) {motive : Array Bool → List TypeId → Prop}
    (nothing : ∀ marks, motive marks [])
    (fresh : ∀ marks id others, Fresh marks id →
      motive (marks.setIfInBounds id.position true) (module.nestedIn id ++ others) →
        motive marks (id :: others))
    (stale : ∀ marks id others, ¬Fresh marks id → motive marks others →
      motive marks (id :: others))
    (marks : Array Bool) (pending : List TypeId) : motive marks pending := by
  fun_induction visit module marks pending with
  | case1 marks => exact nothing marks
  | case2 marks id others unseen _ ih => exact fresh marks id others unseen ih
  | case3 marks id others seen ih =>
      refine stale marks id others (fun unseen => ?_) ih
      cases seen.symm.trans unseen
  | case4 marks id others outside ih =>
      refine stale marks id others (fun unseen => ?_) ih
      cases outside.symm.trans unseen

theorem mem_nestedIn {outer inner : TypeId} :
    inner ∈ module.nestedIn outer ↔ ListsNested module outer inner := by
  unfold nestedIn ListsNested
  rcases declared : module.type? outer with _ | type <;> simp

/-! ### What is visited -/

/-- A way from a type inwards over types that were not visited. -/
def Through (module : Module) (marks : Array Bool) (start id : TypeId) : Prop :=
  Fresh marks start ∧
    ReflTransGen (fun outer inner => ListsNested module outer inner ∧ Fresh marks inner) start id

theorem Through.of_setIfInBounds {marks : Array Bool} {visited start id : TypeId}
    (through : Through module (marks.setIfInBounds visited.position true) start id) :
    Through module marks start id := by
  rcases through with ⟨fresh, inwards⟩
  refine ⟨(fresh_setIfInBounds.mp fresh).1, ReflTransGen.mono ?_ _ _ inwards⟩
  rintro outer inner ⟨lists, freshInner⟩
  exact ⟨lists, (fresh_setIfInBounds.mp freshInner).1⟩

/-- A way that leads past a type can begin behind it. -/
theorem Through.reroute {marks : Array Bool} {start id : TypeId}
    (through : Through module marks start id) (visited : TypeId) :
    id = visited ∨
      (∃ next, ListsNested module visited next ∧
        Through module (marks.setIfInBounds visited.position true) next id) ∨
      Through module (marks.setIfInBounds visited.position true) start id := by
  rcases through with ⟨fresh, inwards⟩
  induction inwards with
  | refl =>
      by_cases same : start = visited
      · exact .inl same
      · exact .inr (.inr ⟨fresh_setIfInBounds.mpr ⟨fresh, same⟩, .refl⟩)
  | @tail middle id _ step ih =>
      rcases step with ⟨lists, freshId⟩
      by_cases same : id = visited
      · exact .inl same
      · have freshStill := fresh_setIfInBounds.mpr ⟨freshId, same⟩
        rcases ih with rfl | ⟨next, listed, freshNext, onwards⟩ | ⟨freshStart, onwards⟩
        · exact .inr (.inl ⟨id, lists, freshStill, .refl⟩)
        · exact .inr (.inl ⟨next, listed, freshNext, onwards.tail ⟨lists, freshStill⟩⟩)
        · exact .inr (.inr ⟨freshStart, onwards.tail ⟨lists, freshStill⟩⟩)

/-- Noting visits elsewhere leaves a way open. -/
theorem Through.of_elsewhere {marks : Array Bool} {ids : List TypeId} {start id : TypeId}
    (through : Through module marks start id)
    (elsewhere : ∀ other, ReflTransGen (ListsNested module) start other → other ∉ ids) :
    Through module (marking marks ids) start id := by
  rcases through with ⟨fresh, inwards⟩
  refine ⟨fresh_marking.mpr ⟨fresh, elsewhere start .refl⟩, ?_⟩
  induction inwards with
  | refl => exact .refl
  | tail before step ih =>
      have inwards : ReflTransGen (ListsNested module) start _ :=
        ReflTransGen.mono (fun _ _ step => step.1) _ _ (before.tail step)
      exact ih.tail ⟨step.1, fresh_marking.mpr ⟨step.2, elsewhere _ inwards⟩⟩

/-- The types that are visited are those that a pending type leads to past what was visited
before. -/
theorem mem_visit_iff {marks : Array Bool} {pending : List TypeId} {id : TypeId} :
    id ∈ module.visit marks pending ↔ ∃ start ∈ pending, Through module marks start id := by
  induction marks, pending using visits_induct module with
  | nothing marks => simp [visit]
  | fresh marks visited others fresh ih =>
      rw [visit_fresh fresh, List.mem_cons, ih]
      constructor
      · rintro (rfl | ⟨start, pending, through⟩)
        · exact ⟨id, List.mem_cons_self, fresh, .refl⟩
        · have before := through.of_setIfInBounds
          rcases List.mem_append.mp pending with listed | later
          · exact ⟨visited, List.mem_cons_self, fresh,
              .head ⟨mem_nestedIn.mp listed, before.1⟩ before.2⟩
          · exact ⟨start, List.mem_cons_of_mem _ later, before⟩
      · rintro ⟨start, pending, through⟩
        rcases through.reroute visited with same | ⟨next, listed, onwards⟩ | onwards
        · exact .inl same
        · exact .inr ⟨next, List.mem_append_left _ (mem_nestedIn.mpr listed), onwards⟩
        · rcases List.mem_cons.mp pending with rfl | later
          · exact absurd rfl (fresh_setIfInBounds.mp onwards.1).2
          · exact .inr ⟨start, List.mem_append_right _ later, onwards⟩
  | stale marks visited others stale ih =>
      rw [visit_stale stale, ih]
      constructor
      · rintro ⟨start, pending, through⟩
        exact ⟨start, List.mem_cons_of_mem _ pending, through⟩
      · rintro ⟨start, pending, through⟩
        rcases List.mem_cons.mp pending with rfl | later
        · exact absurd through.1 stale
        · exact ⟨start, later, through⟩

theorem position_lt_of_listsNested {outer inner : TypeId} (lists : ListsNested module outer inner) :
    outer.position < module.types.size := by
  rcases lists with ⟨type, declared, _⟩
  exact position_lt_of_type? declared

/-- At the start no visit is in the way, and only the last type of a way can be missing. -/
theorem through_replicate {start id : TypeId} :
    Through module (Array.replicate module.types.size false) start id ↔
      id.position < module.types.size ∧ ReflTransGen (ListsNested module) start id := by
  constructor
  · rintro ⟨fresh, inwards⟩
    refine ⟨?_, ReflTransGen.mono (fun _ _ step => step.1) _ _ inwards⟩
    rcases inwards.cases_tail with rfl | ⟨_, _, _, freshId⟩
    · exact fresh_replicate.mp fresh
    · exact fresh_replicate.mp freshId
  · rintro ⟨inside, inwards⟩
    induction inwards using ReflTransGen.head_induction_on with
    | refl => exact ⟨fresh_replicate.mpr inside, .refl⟩
    | head lists _ ih =>
        rcases ih with ⟨freshNext, onwards⟩
        exact ⟨fresh_replicate.mpr (position_lt_of_listsNested lists),
          .head ⟨lists, freshNext⟩ onwards⟩

/-- The types that are visited are those that exist and that the top level leads to. -/
theorem mem_nestOrder_iff {id : TypeId} :
    id ∈ module.nestOrder ↔ id.position < module.types.size ∧
      ∃ root ∈ module.topLevel, ReflTransGen (ListsNested module) root id := by
  rw [nestOrder, mem_visit_iff]
  constructor
  · rintro ⟨root, listed, through⟩
    rcases through_replicate.mp through with ⟨inside, inwards⟩
    exact ⟨inside, root, listed, inwards⟩
  · rintro ⟨inside, root, listed, inwards⟩
    exact ⟨root, listed, through_replicate.mpr ⟨inside, inwards⟩⟩

/-! ### Visits of some of the pending types -/

theorem visit_append {marks : Array Bool} {first second : List TypeId} :
    module.visit marks (first ++ second) = module.visit marks first ++
      module.visit (marking marks (module.visit marks first)) second := by
  induction marks, first using visits_induct module with
  | nothing marks => simp [visit, marking]
  | fresh marks id others fresh ih =>
      rw [List.cons_append, visit_fresh fresh, visit_fresh fresh, ← List.append_assoc, ih]
      rfl
  | stale marks id others stale ih =>
      rw [List.cons_append, visit_stale stale, visit_stale stale, ih]

/-- Right after a type come the visits of what is nested in it. -/
theorem visit_split {marks : Array Bool} {pending : List TypeId} {id : TypeId}
    (visited : id ∈ module.visit marks pending) :
    ∃ before after, id ∉ before ∧ module.visit marks pending = before ++ [id] ++
      module.visit (marking marks (before ++ [id])) (module.nestedIn id) ++ after := by
  induction marks, pending using visits_induct module with
  | nothing marks => simp [visit] at visited
  | fresh marks first others fresh ih =>
      rw [visit_fresh fresh] at visited ⊢
      by_cases same : id = first
      · subst same
        exact ⟨[], _, List.not_mem_nil, by rw [visit_append]; rfl⟩
      · rcases ih (List.mem_of_ne_of_mem same visited) with ⟨before, after, notBefore, split⟩
        refine ⟨first :: before, after, ?_, by rw [split]; rfl⟩
        exact List.not_mem_cons_of_ne_of_not_mem same notBefore
  | stale marks first others stale ih =>
      rw [visit_stale stale] at visited ⊢
      exact ih visited

/-! ### Precedence -/

/-- In a list that may hold items repeatedly, one item occurs before another does for the first
time. -/
def Precedes (items : List TypeId) (first second : TypeId) : Prop :=
  items.idxOf first < items.idxOf second ∧ second ∈ items

theorem Precedes.trans {items : List TypeId} {first second third : TypeId}
    (before : Precedes items first second) (after : Precedes items second third) :
    Precedes items first third :=
  ⟨Nat.lt_trans before.1 after.1, after.2⟩

theorem precedes_append {front back : List TypeId} {first second : TypeId}
    (inFront : first ∈ front) (notInFront : second ∉ front) (inBack : second ∈ back) :
    Precedes (front ++ back) first second := by
  refine ⟨?_, List.mem_append_right _ inBack⟩
  rw [List.idxOf_append_of_mem inFront, List.idxOf_append_of_notMem notInFront]
  exact Nat.lt_add_right _ (List.idxOf_lt_length_iff.mpr inFront)

theorem Precedes.cons {items : List TypeId} {first second : TypeId}
    (precedes : Precedes items first second) {item : TypeId} (other : second ≠ item) :
    Precedes (item :: items) first second := by
  refine ⟨?_, List.mem_cons_of_mem _ precedes.2⟩
  rw [List.idxOf_cons_ne items (Ne.symm other)]
  by_cases same : first = item
  · subst same
    rw [List.idxOf_cons_self]
    exact Nat.succ_pos _
  · rw [List.idxOf_cons_ne items (Ne.symm same)]
    exact Nat.succ_lt_succ precedes.1

/-- What precedes an item for its first time lies in front of it. -/
theorem Precedes.split {items : List TypeId} {first second : TypeId}
    (precedes : Precedes items first second) :
    ∃ front back, items = front ++ second :: back ∧ second ∉ front ∧ first ∈ front := by
  rcases List.eq_append_cons_of_mem precedes.2 with ⟨front, back, rfl, notInFront⟩
  refine ⟨front, back, rfl, notInFront, ?_⟩
  by_contra notInFront'
  have less := precedes.1
  rw [List.idxOf_append_of_notMem notInFront, List.idxOf_cons_self,
    List.idxOf_append_of_notMem notInFront'] at less
  omega

theorem Precedes.mem_left {items : List TypeId} {first second : TypeId}
    (precedes : Precedes items first second) : first ∈ items :=
  List.idxOf_lt_length_iff.mp (Nat.lt_of_lt_of_le precedes.1 List.idxOf_le_length)

theorem Precedes.not_mem {front back : List TypeId} {first second : TypeId}
    (precedes : Precedes (front ++ [first] ++ back) first second) (notInFront : first ∉ front) :
    second ∉ front ++ [first] := by
  intro inFront
  have less := precedes.1
  rw [List.idxOf_append_of_mem inFront,
    List.idxOf_append_of_mem (List.mem_append_right _ (List.mem_singleton_self first)),
    List.idxOf_append_of_notMem notInFront, List.idxOf_cons_self] at less
  have inside := List.idxOf_lt_length_iff.mpr inFront
  rw [List.length_append, List.length_singleton] at inside
  omega

/-- A type is visited because it was pending or because a type visited before lists it. -/
theorem listed_before {marks : Array Bool} {pending : List TypeId} {id : TypeId}
    (visited : id ∈ module.visit marks pending) :
    id ∈ pending ∨
      ∃ outer, ListsNested module outer id ∧ Precedes (module.visit marks pending) outer id := by
  induction marks, pending using visits_induct module with
  | nothing marks => simp [visit] at visited
  | fresh marks first others fresh ih =>
      rw [visit_fresh fresh] at visited ⊢
      by_cases same : id = first
      · exact .inl (same ▸ List.mem_cons_self)
      · have later := List.mem_of_ne_of_mem same visited
        rcases ih later with pending | ⟨outer, lists, precedes⟩
        · rcases List.mem_append.mp pending with nested | other
          · refine .inr ⟨first, mem_nestedIn.mp nested, ?_⟩
            have apart : id ∉ [first] := fun single => same (List.mem_singleton.mp single)
            exact precedes_append (List.mem_singleton_self first) apart later
          · exact .inl (List.mem_cons_of_mem _ other)
        · exact .inr ⟨outer, lists, precedes.cons same⟩
  | stale marks first others stale ih =>
      rw [visit_stale stale] at visited ⊢
      rcases ih visited with pending | listed
      · exact .inl (List.mem_cons_of_mem _ pending)
      · exact .inr listed

/-! ### Reading order -/

/-- The types of the top level, or those that a type lists. -/
def Siblings (module : Module) (siblings : List TypeId) : Prop :=
  siblings = module.topLevel ∨ ∃ owner, siblings = module.nestedIn owner

/-- An order of types in which an outer type comes before the types nested in it, however deep, and
the whole nest of a type comes before its next sibling. -/
structure Preordered (module : Module) (order : List TypeId) : Prop where
  outer_first : ∀ outer inner, TransGen (ListsNested module) outer inner →
    Precedes order outer inner
  nest_first : ∀ siblings earlier later, Siblings module siblings →
    Precedes siblings earlier later → ∀ inner, ReflTransGen (ListsNested module) earlier inner →
      Precedes order inner later

theorem IsForest.mem_nestOrder (forest : IsForest module) {id : TypeId}
    (inside : id.position < module.types.size) : id ∈ module.nestOrder :=
  mem_nestOrder_iff.mpr ⟨inside, forest.exists_root id inside⟩

theorem IsForest.position_lt (forest : IsForest module) {outer inner : TypeId}
    (lists : ListsNested module outer inner) : inner.position < module.types.size := by
  rcases forest.mirrors outer inner lists with ⟨type, declared, _⟩
  exact position_lt_of_type? declared

theorem IsForest.outer_first (forest : IsForest module) {outer inner : TypeId}
    (inwards : TransGen (ListsNested module) outer inner) :
    Precedes module.nestOrder outer inner := by
  have step : ∀ {outer inner}, ListsNested module outer inner →
      Precedes module.nestOrder outer inner := by
    intro outer inner lists
    have names := forest.mirrors outer inner lists
    rcases listed_before (forest.mem_nestOrder (forest.position_lt lists)) with
      isRoot | ⟨other, lists', precedes⟩
    · exact absurd names (forest.not_named isRoot)
    · rw [names.unique (forest.mirrors other inner lists')]
      exact precedes
  induction inwards with
  | single lists => exact step lists
  | tail _ lists ih => exact ih.trans (step lists)

theorem IsForest.siblings_inside (forest : IsForest module) {siblings : List TypeId}
    (areSiblings : Siblings module siblings) {id : TypeId} (listed : id ∈ siblings) :
    id.position < module.types.size := by
  rcases areSiblings with rfl | ⟨owner, rfl⟩
  · rcases forest.topLevel id listed with ⟨type, declared, _⟩
    exact position_lt_of_type? declared
  · exact forest.position_lt (mem_nestedIn.mp listed)

/-- No type leads to another of its siblings. -/
theorem IsForest.siblings_apart (forest : IsForest module) {siblings : List TypeId}
    (areSiblings : Siblings module siblings) {earlier later : TypeId} (first : earlier ∈ siblings)
    (second : later ∈ siblings) (inwards : ReflTransGen (ListsNested module) earlier later) :
    earlier = later := by
  rcases areSiblings with rfl | ⟨owner, rfl⟩
  · exact forest.root_unique first inwards second .refl
  · rcases inwards.cases_tail with same | ⟨middle, onwards, lists⟩
    · exact same.symm
    · have names := forest.mirrors owner later (mem_nestedIn.mp second)
      cases names.unique (forest.mirrors middle later lists)
      -- The way from the first sibling ends in their owner, which leads to the first again.
      have outwards := forest.outwards_of_inwards onwards
      have around : TransGen (NamesOuter module) owner owner :=
        .tail' outwards (forest.mirrors owner earlier (mem_nestedIn.mp first))
      exact absurd around (forest.acyclic owner)

/-- The visits of siblings up to one of them hold the nests of those before it, and not that
one. -/
theorem IsForest.nest_before (forest : IsForest module) {marks : Array Bool}
    {siblings front back : List TypeId} {earlier later inner : TypeId}
    (areSiblings : Siblings module siblings) (split : siblings = front ++ later :: back)
    (notInFront : later ∉ front) (inFront : earlier ∈ front)
    (through : Through module marks earlier inner) :
    inner ∈ module.visit marks front ∧ later ∉ module.visit marks front := by
  refine ⟨mem_visit_iff.mpr ⟨earlier, inFront, through⟩, fun visited => ?_⟩
  rcases mem_visit_iff.mp visited with ⟨start, listed, _, onwards⟩
  have inwards : ReflTransGen (ListsNested module) start later :=
    ReflTransGen.mono (fun _ _ step => step.1) _ _ onwards
  have same : start = later := by
    refine forest.siblings_apart areSiblings ?_ ?_ inwards
    · rw [split]
      exact List.mem_append_left _ listed
    · rw [split]
      exact List.mem_append_right _ List.mem_cons_self
  exact notInFront (same ▸ listed)

theorem IsForest.topLevel_first (forest : IsForest module) {earlier later inner : TypeId}
    (precedes : Precedes module.topLevel earlier later)
    (inwards : ReflTransGen (ListsNested module) earlier inner)
    (inside : inner.position < module.types.size) : Precedes module.nestOrder inner later := by
  rcases precedes.split with ⟨front, back, split, notInFront, inFront⟩
  have visited := forest.mem_nestOrder (forest.siblings_inside (.inl rfl) precedes.2)
  rcases forest.nest_before (.inl rfl) split notInFront inFront
    (through_replicate.mpr ⟨inside, inwards⟩) with ⟨before, notBefore⟩
  rw [nestOrder, split, visit_append] at visited ⊢
  exact precedes_append before notBefore ((List.mem_append.mp visited).resolve_left notBefore)

theorem IsForest.nested_first (forest : IsForest module) {owner earlier later inner : TypeId}
    (precedes : Precedes (module.nestedIn owner) earlier later)
    (inwards : ReflTransGen (ListsNested module) earlier inner)
    (inside : inner.position < module.types.size) : Precedes module.nestOrder inner later := by
  rcases precedes.split with ⟨front, back, split, notInFront, inFront⟩
  have listsLater : ListsNested module owner later := mem_nestedIn.mp precedes.2
  have listsEarlier : ListsNested module owner earlier := mem_nestedIn.mp precedes.mem_left
  have laterVisited := forest.mem_nestOrder (forest.position_lt listsLater)
  rcases visit_split (forest.mem_nestOrder (position_lt_of_listsNested listsLater)) with
    ⟨before, after, ownerOnce, visits⟩
  change module.nestOrder = _ at visits
  -- What is nested in the owner is visited after it, so it is still to be visited then.
  have behind : ∀ other, TransGen (ListsNested module) owner other → other ∉ before ++ [owner] := by
    intro other nested
    have first := forest.outer_first nested
    rw [visits, List.append_assoc] at first
    exact first.not_mem ownerOnce
  have through := (through_replicate.mpr ⟨inside, inwards⟩).of_elsewhere fun other onwards =>
    behind other (.head' listsEarlier onwards)
  rcases forest.nest_before (.inr ⟨owner, rfl⟩) split notInFront inFront through with
    ⟨visited, notVisited⟩
  have notBefore := List.not_mem_append (behind later (.single listsLater)) notVisited
  rw [visits, split, visit_append, ← List.append_assoc, List.append_assoc _ _ after]
    at laterVisited ⊢
  exact precedes_append (List.mem_append_right _ visited) notBefore
    ((List.mem_append.mp laterVisited).resolve_left notBefore)

/-- In a forest the visits are in reading order. -/
theorem IsForest.preordered (forest : IsForest module) : Preordered module module.nestOrder := by
  refine ⟨fun _ _ => forest.outer_first, ?_⟩
  intro siblings earlier later areSiblings precedes inner inwards
  have inside : inner.position < module.types.size := by
    rcases inwards.cases_tail with rfl | ⟨_, _, lists⟩
    · exact forest.siblings_inside areSiblings precedes.mem_left
    · exact forest.position_lt lists
  rcases areSiblings with rfl | ⟨owner, rfl⟩
  · exact forest.topLevel_first precedes inwards inside
  · exact forest.nested_first precedes inwards inside

end Visits

end Rekindle.Module
