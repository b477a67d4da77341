import Rekindle.Command.Files
import Rekindle.Reload.SettingsFile
import Rekindle.Text.Json

/-!
# Making modules reloadable

Every input is the file of a compiled module, named after the file, with its debug symbols in the
file beside it. Two inputs of one name are refused, because the results are written under the names
of the inputs. Nothing is written before everything was read.
-/

namespace Rekindle.Command

open Reload (CompiledModule Diagnostic Settings)
open Text (Json)

/-- What is to be made reloadable. -/
structure InstrumentRequest where
  inputs : List String
  /-- The folder for the results. -/
  folder : String
  defines : List String := [Settings.standard.hostDefine]
  references : List String := [Settings.standard.markerModule]
  /-- The file of the settings, if there is one. -/
  settings : Option String := none
deriving DecidableEq, Repr, Inhabited

/-- What became of a module. -/
inductive ModuleStatus where
  | unchanged
  | instrumented
  | failed
deriving DecidableEq, Repr, Inhabited

def ModuleStatus.word : ModuleStatus → String
  | .unchanged => "unchanged"
  | .instrumented => "instrumented"
  | .failed => "failed"

/-- The word for what became of a module, which makes failures stand out. -/
def ModuleStatus.headline : ModuleStatus → String
  | .unchanged => "unchanged"
  | .instrumented => "instrumented"
  | .failed => "FAILED"

/-- What is reported about an input. -/
structure ModuleReport where
  module : String
  input : String
  status : ModuleStatus
  /-- The file of the result, if there is one. -/
  output : Option String
  diagnostics : List Diagnostic
deriving DecidableEq, Repr, Inhabited

/-- What is reported about all inputs. -/
structure InstrumentSummary where
  reports : List ModuleReport
deriving DecidableEq, Repr, Inhabited

namespace InstrumentSummary

def count (summary : InstrumentSummary) (status : ModuleStatus) : Nat :=
  summary.reports.countP (·.status = status)

def hasFailures (summary : InstrumentSummary) : Bool := 0 < summary.count .failed

def reportLines (report : ModuleReport) : String :=
  report.module ++ ": " ++ report.status.headline ++ "\n" ++
    String.join (report.diagnostics.map fun diagnostic => "  " ++ diagnostic.text ++ "\n")

def text (summary : InstrumentSummary) : String :=
  String.join (summary.reports.map reportLines) ++
    toString (summary.count .instrumented) ++ " instrumented, " ++
    toString (summary.count .unchanged) ++ " unchanged, " ++
    toString (summary.count .failed) ++ " failed\n"

def locationTree (location : Location) : Json :=
  .object [("file", .string location.file), ("line", .number location.line.toNat),
    ("column", .number location.column.toNat)]

def diagnosticTree (diagnostic : Diagnostic) : Json :=
  .object ([("severity", .string diagnostic.severity.text),
    ("message", .string diagnostic.message)] ++
    diagnostic.location.toList.map fun location => ("location", locationTree location))

def reportTree (report : ModuleReport) : Json :=
  .object ([("module", .string report.module), ("input", .string report.input),
    ("status", .string report.status.word)] ++
    (report.output.toList.map fun path => ("output", .string path)) ++
    [("diagnostics", .array (report.diagnostics.map diagnosticTree))])

def json (summary : InstrumentSummary) : String :=
  (Json.array (summary.reports.map reportTree)).text

end InstrumentSummary

/-- The settings of a file that can be used, or the standard ones where no file is given. -/
def loadSettings (files : Files) (path : Option String) : Except Fault Settings := do
  let settings ← match path with
    | none => pure Settings.standard
    | some path =>
      match Settings.ofText (← files.readText path) with
      | some settings => pure settings
      | none => throw (.settingsText path)
  match settings.fault? with
  | some fault => throw (.settings fault)
  | none => return settings

def symbolsPath (path : String) : String :=
  Text.Path.withExtension path Reload.Names.symbolsExtension

def readInput (files : Files) (request : InstrumentRequest) (path : String) :
    Except Fault CompiledModule := do
  let image ← files.read path
  let symbols ←
    if files.isFile (symbolsPath path) then (files.read (symbolsPath path)).map some
    else pure none
  return {
    name := (Text.Path.fileStem path).getD ""
    references := request.references
    defines := request.defines
    image
    symbols }

/-- The first input whose module has the name of an earlier one, with the last such one before
it. -/
def firstDuplicate : (seen : List (String × String)) → List (String × CompiledModule) →
    Option Fault
  | _, [] => none
  | seen, (path, compiled) :: inputs =>
    match seen.find? fun earlier => earlier.1 = compiled.name with
    | some earlier => some (.duplicateModule compiled.name earlier.2 path)
    | none => firstDuplicate ((compiled.name, path) :: seen) inputs

/-- What became of a module, by the outcome of processing it. -/
def statusOf (outcome : Reload.Outcome) : ModuleStatus :=
  if outcome.hasErrors then .failed
  else if outcome.isUnchanged then .unchanged
  else .instrumented

/-- The files of a result: the image at a path, and the symbols beside it. -/
def resultFiles (path : String) (output : Reload.Output) : List WrittenFile :=
  { path, bytes := output.image } ::
    output.symbols.toList.map fun bytes => { path := symbolsPath path, bytes }

/-- Where the result for an input is written, under the name of the input, and its files. -/
def outputFiles (folder input : String) (output : Reload.Output) :
    Except Fault (String × List WrittenFile) :=
  match Text.Path.fileName input with
  | none => .error (.unreadable input "invalid input parameter")
  | some name =>
    let path := Text.Path.inside folder name
    .ok (path, resultFiles path output)

def processInput (settings : Settings) (folder input : String) (compiled : CompiledModule) :
    Except Fault (ModuleReport × List WrittenFile) := do
  let outcome := Reload.process settings compiled
  let report : ModuleReport :=
    { module := compiled.name, input, status := statusOf outcome, output := none,
      diagnostics := outcome.diagnostics }
  match outcome.output with
  | none => return (report, [])
  | some output =>
    let (path, written) ← outputFiles folder input output
    return ({ report with output := some path }, written)

/-- What is read before anything is written: the settings, and the inputs, of which no two have one
name. -/
def readInputs (files : Files) (request : InstrumentRequest) :
    Except Fault (Settings × List (String × CompiledModule)) := do
  let settings ← loadSettings files request.settings
  let inputs ← request.inputs.mapM fun path =>
    (readInput files request path).map fun compiled => (path, compiled)
  match firstDuplicate [] inputs with
  | some fault => throw fault
  | none => return (settings, inputs)

/-- Processes one input after the other and says which files are written, in order. An input that
fails ends this, and what was written before it stays. -/
def writeResults (settings : Settings) (folder : String) :
    List (String × CompiledModule) → List WrittenFile × Except Fault (List ModuleReport)
  | [] => ([], .ok [])
  | (path, compiled) :: others =>
    match processInput settings folder path compiled with
    | .error fault => ([], .error fault)
    | .ok (report, written) =>
      let (later, reports) := writeResults settings folder others
      (written ++ later, reports.map (report :: ·))

/-- Makes modules reloadable: the files that are written, in order and also where this fails in the
end, and what is reported. -/
def makeReloadable (files : Files) (request : InstrumentRequest) :
    List WrittenFile × Except Fault InstrumentSummary :=
  match readInputs files request with
  | .error fault => ([], .error fault)
  | .ok (settings, inputs) =>
    let (written, reports) := writeResults settings request.folder inputs
    (written, reports.map fun reports => { reports })

/-- Makes modules reloadable and says which files are to be written when all went well. -/
def instrument (files : Files) (request : InstrumentRequest) :
    Except Fault (InstrumentSummary × List WrittenFile) :=
  let (written, outcome) := makeReloadable files request
  outcome.map fun summary => (summary, written)

end Rekindle.Command
