import Rekindle.Reload.Instrument
import Rekindle.Text.Path

/-!
# Processing a compiled module

A build hands over the bytes of a module with what it was compiled against. If the module is
eligible, it is read, made reloadable and written again; otherwise, or if anything fails, there is
no output. Symbols that cannot be read are left out with a warning. Where the settings say so, a
warning spoils the output.
-/

namespace Rekindle.Reload

/-- A module as a build produces it. -/
structure CompiledModule where
  name : String
  /-- The names or file names of the modules it was compiled against. -/
  references : List String
  /-- The build symbols that were set. -/
  defines : List String
  image : List UInt8
  symbols : Option (List UInt8)
deriving DecidableEq, Repr, Inhabited

/-- A module that is handed back. -/
structure Output where
  image : List UInt8
  symbols : Option (List UInt8)
deriving DecidableEq, Repr, Inhabited

/-- What processing a module leads to. -/
structure Outcome where
  /-- Absent when the module stays as it is or could not be processed. -/
  output : Option Output
  diagnostics : List Diagnostic
deriving DecidableEq, Repr, Inhabited

namespace Outcome

def unchanged : Outcome := ⟨none, []⟩

def isUnchanged (outcome : Outcome) : Bool := outcome.output.isNone

def hasErrors (outcome : Outcome) : Bool := outcome.diagnostics.any (·.isError)

end Outcome

/-- A fault together with the name of the module it befell. -/
structure Failure where
  module : String
  fault : Fault
deriving DecidableEq, Repr, Inhabited

def Failure.message (failure : Failure) : String :=
  "Internal compiler error for ReloadPostProcessor on " ++ failure.module ++ ": " ++
    failure.fault.message

/-- Whether a module is processed at all: it is built for the host, not excluded, refers to the
module of the attributes, and is among the allowed ones if there is such a list. -/
def isEligible (settings : Settings) (compiled : CompiledModule) : Bool :=
  settings.hostDefine ∈ compiled.defines &&
    compiled.name ∉ settings.excludedModules &&
    compiled.references.any
      (fun reference => Text.Path.fileStem reference = some settings.markerModule) &&
    (match settings.allowedModules with
      | some allowed => compiled.name ∈ allowed
      | none => true)

def symbolsWarning (name : String) (fault : Image.Fault) : Diagnostic :=
  .warning ("Could not read debug symbols for " ++ name ++ ": " ++ fault.message ++
    ". The module was processed without symbols.")

/-- Reads a module with its symbols, or without them where they cannot be read. -/
def readCompiled (compiled : CompiledModule) :
    Except Fault (Module × Option Symbols × List Diagnostic) :=
  match Image.toModuleAndSymbols compiled.image compiled.symbols with
  | .ok (module, symbols) => .ok (module, symbols, [])
  | .error .capacityExceeded => .error (.ofImage .capacityExceeded)
  | .error fault =>
    if compiled.symbols.isSome then
      match Image.toModule compiled.image with
      | .ok module => .ok (module, none, [symbolsWarning compiled.name fault])
      | .error second => .error (.ofImage second)
    else .error (.ofImage fault)

def outcomeOf (settings : Settings) (instrumented : Instrumented)
    (diagnostics : List Diagnostic) : Outcome :=
  if settings.warningsAreErrors && diagnostics.any (·.severity = .warning) then
    { output := none, diagnostics := diagnostics.map (·.promoted) }
  else
    { output := some {
        image := Image.ofModule instrumented.module
        symbols := if settings.emitsSymbols then instrumented.symbols.map Image.ofSymbols
          else none }
      diagnostics }

/-- Processes a module without asking whether it is eligible; what goes wrong is a failure. -/
def tryProcess (settings : Settings) (compiled : CompiledModule) : Except Failure Outcome :=
  (show Except Fault Outcome from do
    let (module, symbols, diagnostics) ← readCompiled compiled
    match ← instrument settings module symbols with
    | none => return { output := none, diagnostics }
    | some instrumented =>
      return outcomeOf settings instrumented (diagnostics ++ instrumented.diagnostics)).mapError
    fun fault => { module := compiled.name, fault }

/-- Processes a module if it is eligible; what goes wrong is an error that is reported. -/
def process (settings : Settings) (compiled : CompiledModule) : Outcome :=
  if isEligible settings compiled then
    match tryProcess settings compiled with
    | .ok outcome => outcome
    | .error failure => { output := none, diagnostics := [.error failure.message] }
  else .unchanged

end Rekindle.Reload
