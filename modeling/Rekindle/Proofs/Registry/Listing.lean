import Rekindle.Proofs.Registry.Politeness
import Rekindle.Proofs.Transparency.Transparent

/-!
# What a dispatcher lists

The two slots of a dispatcher list the routines of the initialized instantiations of hooked types,
in the order in which they were registered. What was never used is not listed, and neither is what
failed to be initialized.
-/

namespace Rekindle.Machine

open Fallible Reload Validity

/-- A store in which the slot of a dispatcher for an occasion lists, each once and as given, what
the initialized instantiations of hooked types have to be called on that occasion. -/
structure Lists (instrumented : Instrumented) (handle : ModuleHandle) (store : Store)
    (occasion : Occasion) (entries : List BoundRoutine) : Prop where
  slot : ∃ place,
    store.hostAddress handle (instrumented.dispatcher.actions occasion) [] = .ok place ∧
      (store.held place).targets = entries
  once : entries.Nodup
  exactly : ∀ target, target ∈ entries ↔ target.module = handle ∧ ∃ hook ∈ instrumented.hooks,
    hook.routine occasion = some target.routine ∧
      store.isInitialized ⟨handle, hook.type, target.arguments⟩ = true

namespace Registry

variable {registry : Registry} {ledger : List Entry} {store : Store}

/-- A host finds the slots of the dispatcher. -/
theorem Keeps.hostAddress_eq (keeps : registry.Keeps ledger store) (occasion : Occasion) :
    store.hostAddress registry.handle (registry.dispatcher.actions occasion) [] =
      .ok (registry.site occasion).slot :=
  (registry.site occasion).hostAddress_eq keeps.loaded registry.wired.plain

/-- A ledger that is right is what the dispatcher lists. -/
theorem Sound.lists {instrumented : Instrumented} {handle : ModuleHandle}
    (wired : Wired instrumented.module instrumented.dispatcher instrumented.hooks)
    (sound : (Registry.mk handle _ _ _ wired).Sound ledger store) (occasion : Occasion) :
    Lists instrumented handle store occasion (onOccasion occasion ledger) := by
  refine ⟨⟨_, sound.keeps.hostAddress_eq occasion, (sound.keeps.records occasion).targets_eq⟩,
    sound.accounts.once occasion, ?_⟩
  intro target
  simp only [Store.isInitialized_iff]
  exact sound.accounts.listed occasion target

end Registry

end Rekindle.Machine

namespace Rekindle.Reload

open Machine Validity

/-- However a host uses a module that was made reloadable, as long as it leaves the dispatcher alone
and nothing but the machine runs initializers, the dispatcher lists the load routine and the unload
routine of each initialized instantiation of a hooked type once, in the order in which their
registration was completed, and nothing else. Other modules may be used before and beside it. -/
theorem dispatcher_lists_initialized {settings : Settings} {module : Module}
    {symbols : Option Symbols} {survey : Survey} {instrumented : Instrumented}
    (makes : instrument settings module symbols = .ok (some instrumented))
    (surveyed : Survey.ofModule settings.markers module symbols = .ok survey)
    (room : Room module 1 2 (4 + 4 * survey.candidates.length))
    (unnamed : NamesNoInitializer module) {limits : Limits} {before start after : Store}
    {handle : ModuleHandle} {earlier requests : List Request} {history ledger : List Entry}
    (polite : ∀ request ∈ earlier ++ requests,
      request.IsPolite handle instrumented.module instrumented.dispatcher)
    (arrives : Attends limits (completed handle instrumented.dispatcher) .empty earlier before
      history)
    (loads : before.load instrumented.module = .ok (start, handle))
    (attends : Attends limits (completed handle instrumented.dispatcher) start requests after
      ledger)
    (occasion : Occasion) :
    Lists instrumented handle after occasion (onOccasion occasion ledger) := by
  rcases List.forall_mem_append.mp polite with ⟨politeBefore, politeSince⟩
  rcases Store.load_ok loads with ⟨accepted, _, handle_eq⟩
  have wired : Wired instrumented.module instrumented.dispatcher instrumented.hooks :=
    (instrument_made makes surveyed room).wired (checkModule_eq_ok_iff.mp accepted) unnamed
  let registry : Registry := ⟨handle, _, _, _, wired⟩
  have covers : registry.scope.Covers before.modules.size := by
    have covers := registry.scope_covers
    rwa [show registry.handle = ⟨before.modules.size⟩ from handle_eq] at covers
  have within : before.Within registry.scope := by
    refine arrives.within covers ?_ (.empty _)
    intro request listed
    exact Registry.within_of_polite (politeBefore request listed)
  have sound : registry.Sound [] start :=
    Registry.sound_of_loads (arrives.occurs .fresh) within loads
  exact (sound.attends politeSince attends).lists wired occasion

end Rekindle.Reload

/-! ### Counters that are used and not used -/

namespace Rekindle.Reload.Counter

open Machine Validity

theorem namesNoInitializer : NamesNoInitializer module := by
  intro id routine body found hasBody instruction listed reference names
  have declared : routine ∈ module.routines := Array.mem_of_getElem? found
  simp only [module, List.mem_toArray, List.mem_cons, List.not_mem_nil, or_false] at declared
  rcases declared with rfl | rfl
  · cases hasBody
    rcases names with rfl | rfl <;> simp [line] at listed
  · cases hasBody
    rcases names with rfl | rfl <;> simp [line] at listed

/-- The host has the counter of strings bumped and looks at the counter of truth values. -/
def requests : List Request :=
  [.invoke firstModule ⟨1⟩ [.string] [], .read firstModule ⟨0⟩ [.bool]]

/-- The two counters are listed in the order in which they were used, and no other is. -/
theorem dispatcher_lists_initialized_counter : ∃ start after ledger,
    Store.empty.load instrumented.module = .ok (start, firstModule) ∧
      Attends {} (completed firstModule instrumented.dispatcher) start requests after ledger ∧
      Lists instrumented firstModule after .load
        [⟨firstModule, ⟨7⟩, [.string]⟩, ⟨firstModule, ⟨7⟩, [.bool]⟩] := by
  have reloadable := instrument_reloadable makes surveyed (by simpa using hookable)
    (by constructor <;> decide)
  have loads := Weave.load_valid reloadable.stillValid
  have polite : ∀ request ∈ requests,
      request.IsPolite firstModule instrumented.module instrumented.dispatcher := by
    intro request listed
    simp only [requests, List.mem_cons, List.not_mem_nil, or_false] at listed
    rcases listed with rfl | rfl
    · refine ⟨List.forall_mem_nil _, fun _ => ⟨?_, ?_⟩⟩
      · rintro declared ⟨⟩
        rfl
      · intro occasion
        cases occasion <;> decide
    · trivial
  have attends : ∃ after ledger, Attends {} (completed firstModule instrumented.dispatcher)
      (Weave.loadedWith instrumented.module) requests after ledger ∧
      onOccasion .load ledger =
        [⟨firstModule, ⟨7⟩, [.string]⟩, ⟨firstModule, ⟨7⟩, [.bool]⟩] :=
    ⟨_, _, .next 60 rfl (.next 60 rfl .done), by decide +kernel⟩
  rcases attends with ⟨after, ledger, attends, listed⟩
  have lists := dispatcher_lists_initialized makes surveyed (by constructor <;> decide)
    namesNoInitializer polite .done loads attends .load
  rw [listed] at lists
  exact ⟨_, after, ledger, loads, attends, lists⟩

end Rekindle.Reload.Counter
