import Mathlib.Logic.Relation
import Mathlib.Data.List.Nodup
import Rekindle.Machine.Initialization

/-!
# The wait table

The edges of the wait table as a relation between threads. As long as each thread has at most one
edge and no thread waits for itself, directly or through others, the bounded walk along the edges
finds exactly the threads that an unbounded one would find, and a walk comes to a thread that does
not wait. An edge that the walk from its owner does not lead back to closes no circle.
-/

namespace Rekindle.Machine.Waits

open Relation

variable {Key : Type} {waits : Waits Key} {thread target waiter owner : ThreadId}

/-- A thread waits for another one. -/
def Awaits (waits : Waits Key) (waiter owner : ThreadId) : Prop :=
  ∃ edge ∈ waits.edges, edge.waiter = waiter ∧ edge.owner = owner

/-- A wait table with at most one edge for each thread, and without circles. -/
structure Acyclic (waits : Waits Key) : Prop where
  single : (waits.edges.map (·.waiter)).Nodup
  irreflexive : ∀ thread, ¬TransGen waits.Awaits thread thread

/-! ### Following edges -/

theorem awaits_of_next? (next : waits.next? waiter = some owner) : waits.Awaits waiter owner := by
  simp only [next?, Option.map_eq_some_iff] at next
  rcases next with ⟨edge, found, rfl⟩
  exact ⟨edge, List.mem_of_find?_eq_some found, by simpa using List.find?_some found, rfl⟩

/-- With one edge for each thread, the table finds each edge. -/
theorem Acyclic.next?_eq_some (acyclic : waits.Acyclic) (awaits : waits.Awaits waiter owner) :
    waits.next? waiter = some owner := by
  rcases awaits with ⟨edge, mem, rfl, rfl⟩
  cases found : waits.edges.find? fun other => other.waiter = edge.waiter with
  | none =>
      simpa using List.find?_eq_none.mp found edge mem
  | some other =>
      have same : other.waiter = edge.waiter := by simpa using List.find?_some found
      have : other = edge := List.inj_on_of_nodup_map acyclic.single
        (List.mem_of_find?_eq_some found) mem same
      rw [next?, found, this]
      rfl

theorem next?_eq_none_iff :
    waits.next? thread = none ↔ ∀ edge ∈ waits.edges, edge.waiter ≠ thread := by
  simp [next?]

/-- The bounded walk finds only threads that the edges lead to. -/
theorem reflTransGen_of_leadsTo : ∀ (steps : Nat) (thread : ThreadId),
    waits.leadsTo target steps thread = true → ReflTransGen waits.Awaits thread target := by
  intro steps
  induction steps with
  | zero =>
      intro thread leads
      simp only [leadsTo, decide_eq_true_eq] at leads
      exact leads ▸ .refl
  | succ steps ih =>
      intro thread leads
      simp only [leadsTo] at leads
      split at leads
      · next here => exact here ▸ .refl
      · split at leads
        · next next found => exact .head (awaits_of_next? found) (ih next leads)
        · contradiction

open Classical in
/-- The edges of the threads that a walk from a thread meets. -/
noncomputable def ahead (waits : Waits Key) (thread : ThreadId) : List (WaitEdge Key) :=
  waits.edges.filter fun edge => ReflTransGen waits.Awaits thread edge.waiter

theorem length_ahead_le (waits : Waits Key) (thread : ThreadId) :
    (waits.ahead thread).length ≤ waits.count :=
  List.length_filter_le _ _

/-- Each step of a walk leaves an edge behind, as no walk comes back. -/
theorem Acyclic.length_ahead_lt (acyclic : waits.Acyclic) (awaits : waits.Awaits waiter owner) :
    (waits.ahead owner).length < (waits.ahead waiter).length := by
  classical
  have sublist : (waits.ahead owner).Sublist (waits.ahead waiter) := by
    refine List.monotone_filter_right _ fun edge met => ?_
    simp only [decide_eq_true_eq] at met ⊢
    exact .head awaits met
  refine Nat.lt_of_le_of_ne sublist.length_le fun same => ?_
  have equal := sublist.eq_of_length same
  rcases awaits with ⟨edge, mem, rfl, rfl⟩
  have first : edge ∈ waits.ahead edge.waiter := by
    simp only [ahead, List.mem_filter, decide_eq_true_eq]
    exact ⟨mem, .refl⟩
  rw [← equal] at first
  simp only [ahead, List.mem_filter, decide_eq_true_eq] at first
  exact acyclic.irreflexive edge.waiter (TransGen.head' ⟨edge, mem, rfl, rfl⟩ first.2)

/-- A walk of as many steps as there are edges ahead finds each thread the edges lead to. -/
theorem Acyclic.leadsTo (acyclic : waits.Acyclic) : ∀ (steps : Nat) (thread : ThreadId),
    (waits.ahead thread).length ≤ steps → ReflTransGen waits.Awaits thread target →
      waits.leadsTo target steps thread = true := by
  intro steps
  induction steps with
  | zero =>
      intro thread short path
      rcases path.cases_head with rfl | ⟨next, awaits, -⟩
      · simp [Waits.leadsTo]
      · exact absurd (acyclic.length_ahead_lt awaits) (by omega)
  | succ steps ih =>
      intro thread short path
      simp only [Waits.leadsTo]
      split
      · rfl
      · next elsewhere =>
          rcases path.cases_head with here | ⟨next, awaits, path⟩
          · exact absurd here elsewhere
          · rw [acyclic.next?_eq_some awaits]
            exact ih next (by have := acyclic.length_ahead_lt awaits; omega) path

/-- The bounded walk is exact. -/
theorem Acyclic.reaches_iff (acyclic : waits.Acyclic) :
    waits.reaches thread target = true ↔ ReflTransGen waits.Awaits thread target :=
  ⟨reflTransGen_of_leadsTo _ _, acyclic.leadsTo _ _ (length_ahead_le _ _)⟩

/-- A walk comes to a thread that does not wait. -/
theorem Acyclic.exists_last (acyclic : waits.Acyclic) (thread : ThreadId) :
    ∃ last, ReflTransGen waits.Awaits thread last ∧ waits.next? last = none := by
  induction left : (waits.ahead thread).length using Nat.strongRecOn generalizing thread with
  | ind edges ih =>
      cases next : waits.next? thread with
      | none => exact ⟨thread, .refl, next⟩
      | some owner =>
          have awaits := awaits_of_next? next
          rcases ih _ (left ▸ acyclic.length_ahead_lt awaits) owner rfl with ⟨last, path, stops⟩
          exact ⟨last, .head awaits path, stops⟩

/-! ### Changing the table -/

theorem acyclic_empty : (empty : Waits Key).Acyclic where
  single := List.nodup_nil
  irreflexive := fun thread circle => by
    rcases TransGen.head'_iff.mp circle with ⟨_, ⟨edge, mem, _⟩, _⟩
    simp [empty] at mem

theorem Acyclic.filter (acyclic : waits.Acyclic) (keep : WaitEdge Key → Bool) :
    Acyclic ⟨waits.edges.filter keep⟩ where
  single := acyclic.single.sublist (List.filter_sublist.map _)
  irreflexive := fun thread circle => acyclic.irreflexive thread <|
    TransGen.mono (fun _ _ ⟨edge, mem, ends⟩ => ⟨edge, (List.mem_filter.mp mem).1, ends⟩)
      thread thread circle

theorem Acyclic.erase (acyclic : waits.Acyclic) (thread : ThreadId) :
    (waits.erase thread).Acyclic :=
  acyclic.filter _

theorem Acyclic.release [DecidableEq Key] (acyclic : waits.Acyclic) (key : Key) :
    (waits.release key).Acyclic :=
  acyclic.filter _

@[simp] theorem mem_erase {edge : WaitEdge Key} :
    edge ∈ (waits.erase thread).edges ↔ edge ∈ waits.edges ∧ edge.waiter ≠ thread := by
  simp [Waits.erase]

@[simp] theorem mem_release [DecidableEq Key] {edge : WaitEdge Key} {key : Key} :
    edge ∈ (waits.release key).edges ↔ edge ∈ waits.edges ∧ edge.key ≠ key := by
  simp [Waits.release]

@[simp] theorem mem_insert {edge other : WaitEdge Key} :
    other ∈ (waits.insert edge).edges ↔
      other = edge ∨ other ∈ waits.edges ∧ other.waiter ≠ edge.waiter := by
  simp [Waits.insert]

/-- A path along the edges and a new one is a path along the edges or uses the new one. -/
theorem path_insert {edge : WaitEdge Key} {start stop : ThreadId}
    (path : TransGen (waits.insert edge).Awaits start stop) :
    TransGen waits.Awaits start stop ∨
      ReflTransGen waits.Awaits start edge.waiter ∧ ReflTransGen waits.Awaits edge.owner stop := by
  have single {waiter owner : ThreadId} (awaits : (waits.insert edge).Awaits waiter owner) :
      waits.Awaits waiter owner ∨ waiter = edge.waiter ∧ owner = edge.owner := by
    rcases awaits with ⟨other, mem, rfl, rfl⟩
    rcases mem_insert.mp mem with rfl | ⟨mem, -⟩
    · exact .inr ⟨rfl, rfl⟩
    · exact .inl ⟨other, mem, rfl, rfl⟩
  induction path with
  | single awaits =>
      rcases single awaits with old | ⟨rfl, rfl⟩
      · exact .inl (.single old)
      · exact .inr ⟨.refl, .refl⟩
  | tail _ awaits ih =>
      rcases single awaits with old | ⟨rfl, rfl⟩
      · rcases ih with path | ⟨before, after⟩
        · exact .inl (.tail path old)
        · exact .inr ⟨before, .tail after old⟩
      · rcases ih with path | ⟨before, -⟩
        · exact .inr ⟨path.to_reflTransGen, .refl⟩
        · exact .inr ⟨before, .refl⟩

/-- An edge closes no circle where the walk from its owner does not find its waiter. -/
theorem Acyclic.insert (acyclic : waits.Acyclic) {edge : WaitEdge Key}
    (apart : waits.reaches edge.owner edge.waiter = false) : (waits.insert edge).Acyclic where
  single := by
    refine List.nodup_cons.mpr ⟨fun mem => ?_, (acyclic.erase edge.waiter).single⟩
    rcases List.mem_map.mp mem with ⟨other, mem, same⟩
    exact (mem_erase.mp mem).2 same
  irreflexive := fun thread circle => by
    rcases path_insert circle with old | ⟨before, after⟩
    · exact acyclic.irreflexive thread old
    · rw [acyclic.reaches_iff.mpr (after.trans before)] at apart
      contradiction

end Rekindle.Machine.Waits
