import Rekindle.Proofs.Transparency.Stores

/-!
# Registering aside

A woven machine calls the routines of the dispatcher where the plain machine does nothing. Such a
call comes to its end and leaves everything but the dispatcher as it was.
-/

namespace Rekindle.Machine

open Fallible Reload Validity

variable {weave : Weave} {site : Site} {limit : Nat} {thread : ThreadId} {store after : Store}
  {argument : Value} {below : List Activation}

namespace Weave

theorem Prepared.site_loaded (prepared : weave.Prepared store) (listed : site ∈ weave.sites) :
    store.modules[site.handle.position]? = some site.module := by
  rw [module_of_mem_sites listed]
  exact prepared.loaded (handle_of_mem_sites listed)

theorem Prepared.usable (prepared : weave.Prepared store) (listed : site ∈ weave.sites)
    (thread : ThreadId) : site.Usable thread store := by
  refine ⟨prepared.site_loaded listed, ?_⟩
  intro storage found
  rcases prepared.primed site listed storage found with ⟨done, value, held, combinable⟩
  refine ⟨?_, value, held, combinable⟩
  rw [done]
  trivial

/-- The storage of the dispatcher in use is initialized, and all its slots can be added to. -/
theorem Prepared.based {base : Storage} (prepared : weave.Prepared store)
    (listed : site ∈ weave.sites) (based : site.Based store base) : base.status = .done ∧
      ∀ other ∈ weave.sites, ∃ value, base.slots[other.slot.slot]? = some value ∧
        value.IsCombinable := by
  have place := instantiation_of_mem_sites listed
  cases based with
  | present found =>
      refine ⟨(prepared.primed site listed base found).1, ?_⟩
      intro other otherListed
      rw [place, ← instantiation_of_mem_sites otherListed] at found
      exact (prepared.primed other otherListed base found).2
  | fresh missing declared =>
      refine ⟨rfl, ?_⟩
      intro other otherListed
      refine ⟨.null, ?_, trivial⟩
      have owner_eq : other.owner = site.owner := by
        have same := place.trans (instantiation_of_mem_sites otherListed).symm
        exact congrArg (·.type) same.symm
      rw [← owner_eq, module_of_mem_sites listed, ← module_of_mem_sites otherListed] at declared
      have fresh := Site.fresh_slot declared
      rw [module_of_mem_sites otherListed, ← module_of_mem_sites listed] at fresh
      exact fresh

theorem Prepared.aside (prepared : weave.Prepared store) (listed : site ∈ weave.sites)
    (registered : site.Registered store argument after) : weave.Aside store after := by
  rcases registered.added with ⟨base, _, combined, based, _, stays, _, present⟩
  rcases prepared.based listed based with ⟨done, combinable⟩
  refine ⟨⟨registered.beside.modules_eq.trans prepared.modules_eq, ?_⟩,
    registered.beside.nextCallback_le, ?_⟩
  · intro other otherListed storage found
    rw [instantiation_of_mem_sites otherListed, ← instantiation_of_mem_sites listed, present]
      at found
    cases found
    refine ⟨done, ?_⟩
    rcases combinable other otherListed with ⟨value, held, kept⟩
    by_cases hit : site.slot.slot = other.slot.slot
    · have inside := (Array.getElem?_eq_some_iff.mp held).1
      exact ⟨combined, by simp [hit, inside], stays⟩
    · exact ⟨value, by rw [Array.getElem?_setIfInBounds_ne hit, held], kept⟩
  · intro instantiation apart
    apply registered.beside.storages
    rw [instantiation_of_mem_sites listed]
    exact fun same => apart (congrArg (·.type) same)

theorem Prepared.issue (prepared : weave.Prepared store) :
    weave.Aside store { store with nextCallback := store.nextCallback + 1 } :=
  ⟨⟨prepared.modules_eq, prepared.primed⟩, Nat.le_succ _, fun _ _ => rfl⟩

/-- A routine of the dispatcher that is called with what can be added comes to its end. -/
theorem Prepared.registers (prepared : weave.Prepared store) (listed : site ∈ weave.sites)
    (combinable : argument.IsCombinable)
    (shallow : Shallow limit thread store (.call site.target [argument] :: below)) :
    ∃ after frame, Leads limit thread store (.call site.target [argument] :: below)
        after (.body frame :: below) ∧
      attempt limit thread after (.body frame :: below) = complete after none below ∧
      weave.Aside store after := by
  have usable := prepared.usable listed thread
  have sees : SeesReturns fun _ => ([] : List Unit) := ⟨fun _ _ _ => rfl, fun _ _ _ => rfl⟩
  have enough := usable.enough sees shallow
  rcases usable.registers sees combinable enough with ⟨after, a, b, c, traces, registered⟩
  exact ⟨after, _, traces.leads, rfl, prepared.aside listed registered⟩

end Weave

end Rekindle.Machine
