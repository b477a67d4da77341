import Rekindle.Reload.Hook
import Rekindle.Validity.Check

/-!
# Making a module reloadable

A module with candidates is checked, gets a dispatcher, has each candidate hooked, and is checked
again where the settings ask for it. A module without candidates is left alone, and is not checked
beyond its nesting.
-/

namespace Rekindle.Reload

/-- A module that was made reloadable. -/
structure Instrumented where
  module : Module
  symbols : Option Symbols
  dispatcher : Dispatcher
  hooks : List Hook
  diagnostics : List Diagnostic
deriving DecidableEq, Repr, Inhabited

def instrumentCandidates (settings : Settings) (module : Module) (symbols : Option Symbols)
    (survey : Survey) : Except Fault Instrumented := do
  (Validity.checkModule module).mapError .invalid
  let (module, dispatcher) ← Dispatcher.addTo settings.markers module
  let (work, hooks) ←
    Hook.ofCandidates settings.markers dispatcher { module, symbols } survey.candidates
  if settings.checksOutput then
    (Validity.checkModule work.module).mapError .invalid
  return {
    module := work.module
    symbols := work.symbols
    dispatcher
    hooks
    diagnostics := survey.diagnostics }

/-- Makes a module reloadable, or finds that it has no candidates. -/
def instrument (settings : Settings) (module : Module) (symbols : Option Symbols) :
    Except Fault (Option Instrumented) :=
  match settings.fault? with
  | some fault => .error (.invalidSettings fault)
  | none => do
    (Validity.checkNesting module).mapError .invalid
    let survey ← Survey.ofModule settings.markers module symbols
    if survey.candidates.isEmpty then return none
    else return some (← instrumentCandidates settings module symbols survey)

end Rekindle.Reload
