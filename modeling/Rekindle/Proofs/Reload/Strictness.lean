import Rekindle.Proofs.Reload.Processing

/-!
# Warnings as errors

Where warnings are to be errors, a module about which there is anything to report is not handed
back, and what is reported about it are errors. One warning escapes: symbols that were left out of a
module without candidates are still only warned about, since such a module is let go before warnings
are promoted.
-/

namespace Rekindle.Reload

open Fallible Image

/-- An eligible module stays as it is, and its symbols could not be read. -/
structure LeftWithoutSymbols (settings : Settings) (compiled : CompiledModule)
    (fault : Image.Fault) : Prop where
  eligible : isEligible settings compiled = true
  reads : ∃ input bytes, toModule compiled.image = .ok input ∧ compiled.symbols = some bytes ∧
    toSymbols input.identity bytes = .error fault ∧ instrument settings input none = .ok none
  /-- If there is no memory for the symbols, the module is not processed without them. -/
  fits : fault ≠ .capacityExceeded

section Strict

variable {settings : Settings} {compiled : CompiledModule}

theorem process_leftWithoutSymbols {fault : Image.Fault}
    (left : LeftWithoutSymbols settings compiled fault) :
    process settings compiled = ⟨none, [symbolsWarning compiled.name fault]⟩ := by
  rcases left.reads with ⟨input, bytes, readable, given, broken, bare⟩
  have read := readCompiled_unreadable readable given broken left.fits
  simp only [process, left.eligible, if_true, tryProcess, read, ok_bind, bare, pure_eq_ok,
    Except.mapError]

/-- Where warnings are to be errors, what is reported about a module that was made reloadable are
errors, and they withhold it. -/
theorem outcomeOf_strict (strict : settings.warningsAreErrors = true) {reloadable : Instrumented}
    {diagnostics : List Diagnostic}
    (warnings : ∀ diagnostic ∈ diagnostics, diagnostic.severity = .warning) :
    ((outcomeOf settings reloadable diagnostics).diagnostics ≠ [] →
      (outcomeOf settings reloadable diagnostics).output = none) ∧
    ∀ diagnostic ∈ (outcomeOf settings reloadable diagnostics).diagnostics,
      diagnostic.severity = .error := by
  cases diagnostics with
  | nil => simp [outcomeOf]
  | cons first others =>
      have spoilt : (settings.warningsAreErrors &&
          (first :: others).any (·.severity = .warning)) = true := by
        simp [strict, warnings first (by simp)]
      rw [outcomeOf, if_pos spoilt]
      simp [Diagnostic.promoted]

/-- What is reported keeps an output from being handed back however processing ends, and consists of
errors unless it is the warning about a module that was let go. -/
theorem Processed.strict {outcome : Outcome} (strict : settings.warningsAreErrors = true)
    (ends : Processed settings compiled outcome) :
    (outcome.diagnostics ≠ [] → outcome.output = none) ∧
    ((∀ diagnostic ∈ outcome.diagnostics, diagnostic.severity = .error) ∨
      ∃ fault, LeftWithoutSymbols settings compiled fault) := by
  cases ends with
  | ineligible => exact ⟨fun _ => rfl, .inl (by simp [Outcome.unchanged])⟩
  | failed => exact ⟨fun _ => rfl, .inl (by simp [Diagnostic.error])⟩
  | leftAlone eligible read bare =>
      refine ⟨fun _ => rfl, ?_⟩
      rcases warnings_of_readCompiled read with
        rfl | ⟨bytes, fault, given, broken, fits, rfl, rfl⟩
      · exact .inl (by simp)
      · have readable := (toModule_of_readCompiled read).1
        exact .inr ⟨fault, eligible, ⟨_, bytes, readable, given, broken, bare⟩, fits⟩
  | @instrumented _ _ _ warnings reloadable read made =>
      have warn : ∀ diagnostic ∈ warnings ++ reloadable.diagnostics,
          diagnostic.severity = .warning := by
        intro diagnostic listed
        rcases List.mem_append.mp listed with first | second
        · exact (toModule_of_readCompiled read).2.2 diagnostic first
        · exact (instrument_keeps made).2.2.2.2 diagnostic second
      rcases outcomeOf_strict strict warn with ⟨withheld, errors⟩
      exact ⟨withheld, .inl errors⟩

end Strict

/-- Where warnings are to be errors, a module about which anything is reported is not handed back,
and what is reported are errors, except that a module without candidates whose symbols could not be
read leads to the warning about them. -/
theorem strict_withholds (settings : Settings) (compiled : CompiledModule)
    (strict : settings.warningsAreErrors = true) :
    ((process settings compiled).diagnostics ≠ [] → (process settings compiled).output = none) ∧
    ((∀ fault, ¬LeftWithoutSymbols settings compiled fault) →
      ∀ diagnostic ∈ (process settings compiled).diagnostics, diagnostic.severity = .error) ∧
    (∀ fault, LeftWithoutSymbols settings compiled fault →
      process settings compiled = ⟨none, [symbolsWarning compiled.name fault]⟩) := by
  have ends := (processed settings compiled).strict strict
  refine ⟨ends.1, fun kept => ends.2.resolve_right ?_, fun fault => process_leftWithoutSymbols⟩
  rintro ⟨fault, left⟩
  exact kept fault left

end Rekindle.Reload

namespace Rekindle.Reload.Cache

open Fallible Image

/-! ### Symbols that cannot be read -/

def strictSettings : Settings := { Settings.unchecked with warningsAreErrors := true }

/-- A module with a candidate whose image of symbols is empty. -/
def damaged : CompiledModule := { compiled with symbols := some [] }

theorem damaged_is_withheld :
    strictSettings.warningsAreErrors = true ∧
    (process strictSettings damaged).output = none ∧
    (process strictSettings damaged).diagnostics ≠ [] ∧
    ∀ diagnostic ∈ (process strictSettings damaged).diagnostics, diagnostic.severity = .error := by
  have readable : toModule damaged.image = .ok module := readable
  have broken : toSymbols module.identity [] = .error (.truncated 0) := rfl
  have read : readCompiled damaged = .ok (module, none, [symbolsWarning "app" (.truncated 0)]) :=
    readCompiled_unreadable readable rfl broken (by decide)
  have made : instrument strictSettings module none = .ok (some _) := makes
  have reported : (process strictSettings damaged).diagnostics ≠ [] := by
    rw [process_instrumented (by decide) read made]
    decide
  have kept : ∀ fault, ¬LeftWithoutSymbols strictSettings damaged fault := by
    rintro fault ⟨_, ⟨input, _, again, _, _, bare⟩, _⟩
    cases readable.symm.trans again
    cases made.symm.trans bare
  rcases strict_withholds strictSettings damaged rfl with ⟨withheld, errors, _⟩
  exact ⟨rfl, withheld reported, reported, errors kept⟩

/-- A module without types. -/
def bareModule : Module where
  name := "Game"
  identity := Vector.replicate 16 0
  references := []
  types := #[]
  fields := #[]
  routines := #[]
  topLevel := []

/-- That module with an image of symbols that is empty. -/
def bare : CompiledModule where
  name := "Game"
  references := ["lib/DotReload.drm"]
  defines := ["DOTRELOAD_HOST"]
  image := ofModule bareModule
  symbols := some []

theorem bare_is_let_go : instrument Settings.strict bareModule none = .ok none := by
  have usable : Settings.strict.fault? = none := by decide
  have nested : Validity.checkNesting bareModule = .ok () := by cbv
  have found : Survey.ofModule Settings.strict.markers bareModule none =
      .ok { candidates := [], diagnostics := [], visited := 0 } := by cbv
  simp only [instrument, usable, nested, found, Except.mapError, ok_bind]
  rfl

theorem bare_is_warned_about :
    Settings.strict.warningsAreErrors = true ∧
    process Settings.strict bare = ⟨none, [symbolsWarning "Game" (.truncated 0)]⟩ ∧
    (symbolsWarning "Game" (.truncated 0)).severity = .warning := by
  have readable : toModule bare.image = .ok bareModule := toModule_written (by decide +kernel)
  have left : LeftWithoutSymbols Settings.strict bare (.truncated 0) :=
    ⟨by decide, ⟨bareModule, [], readable, rfl, rfl, bare_is_let_go⟩, by decide⟩
  exact ⟨rfl, process_leftWithoutSymbols left, rfl⟩

end Rekindle.Reload.Cache
