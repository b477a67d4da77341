import Rekindle.Proofs.Image.RoundTrip
import Rekindle.Proofs.Reload.Instrumentation
import Rekindle.Proofs.Reload.Keeping
import Rekindle.Reload.Process

/-!
# Processing is all or nothing

A module that is handed back comes with warnings at most and is fit to be loaded: its image reads
back together with its symbols, as the module it was, with a dispatcher. What cannot be read or be
made reloadable comes to nothing but one error.
-/

namespace Rekindle.Reload

open Fallible Validity Image

/-- The symbols that an image of them has for the module of an identity, if it can be read. -/
def symbolsFor (identity : Identity) (image : Option (List UInt8)) : Option Symbols :=
  image.bind fun bytes => (toSymbols identity bytes).toOption

theorem toSymbols_identity {identity : Identity} {bytes : List UInt8} {symbols : Symbols}
    (read : toSymbols identity bytes = .ok symbols) : symbols.identity = identity := by
  unfold toSymbols toSymbolsWith at read
  rcases bind_eq_ok_iff.mp read with ⟨opened, _, judged⟩
  by_cases same : opened.identity = identity
  · rw [if_neg (by simpa using same)] at judged
    cases judged
    exact same
  · rw [if_pos same] at judged
    cases judged

theorem symbolsFor_identity {identity : Identity} {image : Option (List UInt8)} {symbols : Symbols}
    (found : symbolsFor identity image = some symbols) : symbols.identity = identity := by
  rcases Option.bind_eq_some_iff.mp found with ⟨bytes, _, read⟩
  cases answer : toSymbols identity bytes with
  | error fault => simp [answer, Except.toOption] at read
  | ok given =>
      rw [answer] at read
      cases read
      exact toSymbols_identity answer

theorem symbolsFor_isSome {identity : Identity} {image : Option (List UInt8)} :
    (symbolsFor identity image).isSome = true ↔
      ∃ bytes given, image = some bytes ∧ toSymbols identity bytes = .ok given := by
  cases image with
  | none => simp [symbolsFor]
  | some bytes =>
      simp only [symbolsFor, Option.bind_some]
      cases read : toSymbols identity bytes <;> simp [Except.toOption, read]

section Reading

variable {compiled : CompiledModule} {input : Module}

/-- A module that can be read is read with its symbols. Symbols that cannot be read are left out with
a warning, unless there is no memory for them. -/
theorem readCompiled_eq (readable : toModule compiled.image = .ok input) :
    readCompiled compiled = match compiled.symbols with
      | none => .ok (input, none, [])
      | some bytes => match toSymbols input.identity bytes with
        | .ok symbols => .ok (input, some symbols, [])
        | .error .capacityExceeded => .error (.ofImage .capacityExceeded)
        | .error fault => .ok (input, none, [symbolsWarning compiled.name fault]) := by
  unfold readCompiled toModuleAndSymbols
  rw [readable]
  cases given : compiled.symbols with
  | none => rfl
  | some bytes =>
      simp only [ok_bind, Option.isSome_some, if_true]
      cases toSymbols input.identity bytes with
      | ok symbols => rfl
      | error fault => cases fault <;> rfl

theorem readCompiled_of_ok (readable : toModule compiled.image = .ok input) :
    (∃ warnings, readCompiled compiled =
        .ok (input, symbolsFor input.identity compiled.symbols, warnings) ∧
      ∀ diagnostic ∈ warnings, diagnostic.severity = .warning) ∨
    ∃ fault, readCompiled compiled = .error fault := by
  rw [readCompiled_eq readable]
  unfold symbolsFor
  cases compiled.symbols with
  | none => exact .inl ⟨[], rfl, by simp⟩
  | some bytes =>
      simp only [Option.bind_some]
      cases toSymbols input.identity bytes with
      | ok symbols => exact .inl ⟨[], rfl, by simp⟩
      | error fault =>
          cases fault with
          | capacityExceeded => exact .inr ⟨_, rfl⟩
          | _ => exact .inl ⟨[_], rfl, by simp [symbolsWarning, Diagnostic.warning]⟩

theorem readCompiled_alone (readable : toModule compiled.image = .ok input)
    (alone : compiled.symbols = none) : readCompiled compiled = .ok (input, none, []) := by
  rw [readCompiled_eq readable, alone]

theorem readCompiled_unreadable {bytes : List UInt8} {fault : Image.Fault}
    (readable : toModule compiled.image = .ok input) (given : compiled.symbols = some bytes)
    (broken : toSymbols input.identity bytes = .error fault) (fits : fault ≠ .capacityExceeded) :
    readCompiled compiled = .ok (input, none, [symbolsWarning compiled.name fault]) := by
  rw [readCompiled_eq readable, given]
  simp only [broken]

theorem readCompiled_of_error {fault : Image.Fault}
    (broken : toModule compiled.image = .error fault) :
    ∃ fault, readCompiled compiled = .error fault := by
  unfold readCompiled toModuleAndSymbols
  rw [broken]
  cases fault <;> cases compiled.symbols <;> exact ⟨_, rfl⟩

theorem toModule_of_readCompiled {symbols : Option Symbols} {warnings : List Diagnostic}
    (done : readCompiled compiled = .ok (input, symbols, warnings)) :
    toModule compiled.image = .ok input ∧
      symbols = symbolsFor input.identity compiled.symbols ∧
      ∀ diagnostic ∈ warnings, diagnostic.severity = .warning := by
  cases readable : toModule compiled.image with
  | error fault =>
      rcases readCompiled_of_error readable with ⟨_, fails⟩
      rw [done] at fails
      cases fails
  | ok module =>
      rcases readCompiled_of_ok readable with ⟨found, same, warn⟩ | ⟨_, fails⟩
      · rw [done] at same
        cases same
        exact ⟨rfl, rfl, warn⟩
      · rw [done] at fails
        cases fails

/-- The only warning that reading gives is that symbols were left out. -/
theorem warnings_of_readCompiled {symbols : Option Symbols} {warnings : List Diagnostic}
    (done : readCompiled compiled = .ok (input, symbols, warnings)) :
    warnings = [] ∨ ∃ bytes fault, compiled.symbols = some bytes ∧
      toSymbols input.identity bytes = .error fault ∧ fault ≠ .capacityExceeded ∧
      symbols = none ∧ warnings = [symbolsWarning compiled.name fault] := by
  rw [readCompiled_eq (toModule_of_readCompiled done).1] at done
  split at done
  · cases done
    exact .inl rfl
  · rename_i bytes given
    split at done
    · cases done
      exact .inl rfl
    · cases done
    · rename_i fault fits broken
      cases done
      exact .inr ⟨bytes, fault, given, broken, fits, rfl, rfl⟩

end Reading

/-! ### Writing -/

theorem toModule_written {module : Module} (fits : (writeModule module).length < memoryLimit) :
    toModule (ofModule module) = .ok module :=
  toModuleWith_written fits

/-- A module and symbols of the same identity are read back from images that fit in memory. -/
theorem toModuleAndSymbols_written {module : Module} {symbols : Option Symbols}
    (same : ∀ given ∈ symbols, given.identity = module.identity)
    (fits : (ofModule module).length < memoryLimit)
    (symbolsFit : ∀ given ∈ symbols, (ofSymbols given).length < memoryLimit) :
    toModuleAndSymbols (ofModule module) (symbols.map ofSymbols) = .ok (module, symbols) := by
  have moduleFits : (writeModule module).length < memoryLimit := by
    rw [ofModule, ofModuleWith, length_sealWith] at fits
    omega
  unfold toModuleAndSymbols
  rw [toModule_written moduleFits]
  cases symbols with
  | none => rfl
  | some given =>
      have givenFits : (writeSymbols given).length < memoryLimit := by
        have := symbolsFit given rfl
        rw [ofSymbols, ofSymbolsWith, length_sealWith] at this
        omega
      have again : toSymbols given.identity (ofSymbols given) = .ok given :=
        toSymbolsWith_written givenFits
      rw [same given rfl] at again
      simp only [Option.map_some, ok_bind, again, pure_eq_ok]

/-! ### Processing -/

section Processing

variable {settings : Settings} {compiled : CompiledModule}

/-- The ways in which processing ends. -/
inductive Processed (settings : Settings) (compiled : CompiledModule) : Outcome → Prop where
  | ineligible (refused : isEligible settings compiled = false) :
    Processed settings compiled .unchanged
  | failed (eligible : isEligible settings compiled = true) (fault : Fault) :
    Processed settings compiled ⟨none, [.error (Failure.message ⟨compiled.name, fault⟩)]⟩
  | leftAlone (eligible : isEligible settings compiled = true) {input : Module}
      {symbols : Option Symbols} {warnings : List Diagnostic}
      (read : readCompiled compiled = .ok (input, symbols, warnings))
      (bare : instrument settings input symbols = .ok none) :
    Processed settings compiled ⟨none, warnings⟩
  | instrumented (eligible : isEligible settings compiled = true) {input : Module}
      {symbols : Option Symbols} {warnings : List Diagnostic} {reloadable : Instrumented}
      (read : readCompiled compiled = .ok (input, symbols, warnings))
      (made : instrument settings input symbols = .ok (some reloadable)) :
    Processed settings compiled
      (outcomeOf settings reloadable (warnings ++ reloadable.diagnostics))

theorem processed (settings : Settings) (compiled : CompiledModule) :
    Processed settings compiled (process settings compiled) := by
  unfold process
  split
  · rename_i eligible
    split
    · rename_i tried
      unfold tryProcess at tried
      simp only [mapError_eq_ok_iff, bind_eq_ok_iff, Prod.exists] at tried
      rcases tried with ⟨input, symbols, warnings, read, instrumented, instruments, finished⟩
      cases instrumented with
      | none =>
          cases finished
          exact .leftAlone eligible read instruments
      | some reloadable =>
          cases finished
          exact .instrumented eligible read instruments
    · rename_i failure tried
      have named : failure = ⟨compiled.name, failure.fault⟩ := by
        unfold tryProcess at tried
        simp only [Except.mapError] at tried
        split at tried
        · cases tried
          rfl
        · cases tried
      rw [named]
      exact .failed eligible failure.fault
  · rename_i refused
    exact .ineligible (by simpa using refused)

theorem process_output {output : Output}
    (made : (process settings compiled).output = some output) :
    ∃ input symbols warnings reloadable,
      readCompiled compiled = .ok (input, symbols, warnings) ∧
      instrument settings input symbols = .ok (some reloadable) ∧
      output = ⟨ofModule reloadable.module,
        (if settings.emitsSymbols then reloadable.symbols else none).map ofSymbols⟩ ∧
      (process settings compiled).diagnostics = warnings ++ reloadable.diagnostics := by
  have ends := processed settings compiled
  generalize process settings compiled = outcome at made ends ⊢
  cases ends with
  | ineligible => cases made
  | failed => cases made
  | leftAlone => cases made
  | @instrumented _ input symbols warnings reloadable read instruments =>
      refine ⟨input, symbols, warnings, reloadable, read, instruments, ?_⟩
      simp only [outcomeOf] at made ⊢
      split at made
      · cases made
      · rename_i spoilt
        rw [if_neg spoilt]
        cases made
        refine ⟨?_, rfl⟩
        cases settings.emitsSymbols <;> rfl

theorem process_instrumented {input : Module} {symbols : Option Symbols}
    {warnings : List Diagnostic} {reloadable : Instrumented}
    (eligible : isEligible settings compiled = true)
    (read : readCompiled compiled = .ok (input, symbols, warnings))
    (made : instrument settings input symbols = .ok (some reloadable)) :
    process settings compiled =
      outcomeOf settings reloadable (warnings ++ reloadable.diagnostics) := by
  simp only [process, eligible, if_true, tryProcess, read, ok_bind, made, pure_eq_ok,
    Except.mapError]

theorem process_succeeds {input : Module} {symbols : Option Symbols} {warnings : List Diagnostic}
    {reloadable : Instrumented} (eligible : isEligible settings compiled = true)
    (read : readCompiled compiled = .ok (input, symbols, warnings))
    (made : instrument settings input symbols = .ok (some reloadable))
    (lenient : settings.warningsAreErrors = false) :
    (process settings compiled).output = some ⟨ofModule reloadable.module,
      if settings.emitsSymbols then reloadable.symbols.map ofSymbols else none⟩ := by
  simp only [process_instrumented eligible read made, outcomeOf, lenient, Bool.false_and,
    Bool.false_eq_true, if_false]

/-- What goes wrong with an eligible module is reported as one error that names it. -/
theorem process_fails {fault : Fault} (eligible : isEligible settings compiled = true)
    (fails : readCompiled compiled = .error fault ∨ ∃ input symbols warnings,
      readCompiled compiled = .ok (input, symbols, warnings) ∧
      instrument settings input symbols = .error fault) :
    process settings compiled = ⟨none, [.error (Failure.message ⟨compiled.name, fault⟩)]⟩ := by
  have failure : tryProcess settings compiled = .error ⟨compiled.name, fault⟩ := by
    unfold tryProcess
    rcases fails with unread | ⟨input, symbols, warnings, read, fails⟩
    · rw [unread]
      rfl
    · rw [read]
      simp only [ok_bind, fails]
      rfl
  rw [process, if_pos eligible, failure]

/-- Processing gives no output, or an output without errors: an image that reads back, with the
symbols that are handed back with it, as the module that was given, with a dispatcher. An eligible
module that cannot be read or be made reloadable leads to no output and one error, which names
it. -/
theorem process_all_or_nothing (settings : Settings) (compiled : CompiledModule) :
    (∀ output, (process settings compiled).output = some output →
      (∀ diagnostic ∈ (process settings compiled).diagnostics, diagnostic.severity ≠ .error) ∧
      (output.image.length < memoryLimit →
        (∀ bytes ∈ output.symbols, bytes.length < memoryLimit) →
        ∃ input read symbols, toModule compiled.image = .ok input ∧
          toModuleAndSymbols output.image output.symbols = .ok (read, symbols) ∧
          read.identity = input.identity ∧ read.name = input.name ∧
          read.references = input.references ∧ Declares read Names.dispatcher ∧
          (read.types.size ≤ tableLimit → (read.findType Names.dispatcher).isSome = true) ∧
          (settings.checksOutput = true → checkModule read = .ok ()) ∧
          (output.symbols.isSome = true ↔ settings.emitsSymbols = true ∧
            ∃ bytes given, compiled.symbols = some bytes ∧
              toSymbols input.identity bytes = .ok given))) ∧
    (isEligible settings compiled = true →
      ((∃ fault, toModule compiled.image = .error fault) ∨
        ∃ input fault, toModule compiled.image = .ok input ∧
          instrument settings input (symbolsFor input.identity compiled.symbols) =
            .error fault) →
      ∃ fault, process settings compiled =
        ⟨none, [.error (Failure.message ⟨compiled.name, fault⟩)]⟩) := by
  constructor
  · intro output made
    rcases process_output made with
      ⟨input, symbols, warnings, reloadable, done, instruments, rfl, reported⟩
    rcases toModule_of_readCompiled done with ⟨readable, rfl, warn⟩
    rcases instrument_keeps instruments with ⟨keeps, declares, identities, checked, warns⟩
    constructor
    · intro diagnostic listed
      rw [reported] at listed
      have warning : diagnostic.severity = .warning := by
        rcases List.mem_append.mp listed with first | second
        · exact warn diagnostic first
        · exact warns diagnostic second
      rw [warning]
      decide
    · intro fits symbolsFit
      have same : ∀ given ∈ reloadable.symbols, given.identity = reloadable.module.identity := by
        intro given present
        rw [Option.mem_def.mp present, Option.map_some] at identities
        rcases Option.map_eq_some_iff.mp identities.symm with ⟨read, found, same⟩
        rw [← same, symbolsFor_identity found, keeps.identity]
      refine ⟨input, reloadable.module, _, readable, toModuleAndSymbols_written ?_ fits ?_,
        keeps.identity, keeps.name, keeps.references, declares, declares.findType, checked, ?_⟩
      · intro given present
        apply same
        simp only [Option.mem_def, Option.ite_none_right_eq_some] at present
        exact present.2
      · intro given present
        exact symbolsFit _ (Option.mem_map_of_mem _ present)
      · have carried := congrArg Option.isSome identities
        simp only [Option.isSome_map] at carried
        rw [← symbolsFor_isSome, ← carried]
        cases settings.emitsSymbols <;> simp
  · intro eligible fails
    rcases fails with ⟨_, broken⟩ | ⟨input, fault, readable, fails⟩
    · rcases readCompiled_of_error broken with ⟨fault, unread⟩
      exact ⟨fault, process_fails eligible (.inl unread)⟩
    · rcases readCompiled_of_ok readable with ⟨warnings, read, _⟩ | ⟨second, unread⟩
      · exact ⟨fault, process_fails eligible (.inr ⟨input, _, warnings, read, fails⟩)⟩
      · exact ⟨second, process_fails eligible (.inl unread)⟩

end Processing

end Rekindle.Reload

/-! ### A module with one type that is handed back -/

namespace Rekindle.Reload.Cache

open Image

def compiled : CompiledModule where
  name := "app"
  references := ["lib/DotReload.drm"]
  defines := ["DOTRELOAD_HOST"]
  image := ofModule module
  symbols := none

def instrumented : Instrumented := .ofCandidates module none [candidate]

theorem makes : instrument Settings.unchecked module none = .ok (some instrumented) :=
  instrument_ofCandidates (by cbv) (by cbv) surveyed (by simp) rfl

theorem readable : toModule compiled.image = .ok module := by
  have image_eq : compiled.image = ofModule module := rfl
  rw [image_eq, toModule_written (by decide +kernel)]

def output : Output := ⟨ofModule instrumented.module, none⟩

theorem handed_back : (process Settings.unchecked compiled).output = some output := by
  have bare : instrumented.symbols = none := by decide
  have handed := process_succeeds (by decide) (readCompiled_alone readable rfl) makes rfl
  simp only [bare, Option.map_none, ite_self] at handed
  exact handed

theorem output_fits : output.image.length < memoryLimit := by
  have payload : (writeModule instrumented.module).length < 10000 := by decide +kernel
  rw [output, ofModule, ofModuleWith, length_sealWith]
  unfold memoryLimit
  omega

theorem process_hands_back_cache : ∃ output read symbols,
    (process Settings.unchecked compiled).output = some output ∧
    toModuleAndSymbols output.image output.symbols = .ok (read, symbols) ∧
    read.identity = module.identity ∧ Declares read Names.dispatcher := by
  rcases (process_all_or_nothing Settings.unchecked compiled).1 _ handed_back with ⟨_, reads⟩
  rcases reads output_fits nofun with
    ⟨input, back, symbols, again, reads, identity, _, _, declares, _⟩
  rw [readable] at again
  cases again
  exact ⟨output, back, symbols, handed_back, reads, identity, declares⟩

end Rekindle.Reload.Cache
