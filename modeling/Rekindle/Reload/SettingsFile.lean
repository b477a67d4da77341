import Rekindle.Reload.Settings
import Rekindle.Toml.Document

/-!
# Settings in a file

Settings are read from a TOML document whose keys are the words for the single settings. What the
document leaves out stays as it is by default, and keys that mean nothing here are passed over; a
value of another type than the setting's is an error. The names of the attributes may be given as a
table or, in their order, as an array.
-/

namespace Rekindle.Reload

open Toml (Value Entries)

/-- Reads a setting, which stays as it is where the document says nothing about it. -/
def setting {α : Type} (entries : Entries) (word : String) (read : Value → Option α)
    (default : α) : Option α :=
  match entries.get? word with
  | none => some default
  | some value => read value

def textOf : Value → Option String
  | .string text => some text
  | _ => none

def flagOf : Value → Option Bool
  | .boolean flag => some flag
  | _ => none

def textsOf : Value → Option (List String)
  | .array items => items.mapM textOf
  | _ => none

namespace Markers

def ofEntries (entries : Entries) : Option Markers := do
  let markers : Markers := {}
  let reloadOnEnter ← setting entries "reload_on_enter" textOf markers.reloadOnEnter
  let forceReload ← setting entries "force_reload" textOf markers.forceReload
  let runBeforeReload ← setting entries "run_before_reload" textOf markers.runBeforeReload
  let orderProperty ← setting entries "order_property" textOf markers.orderProperty
  let compilerGenerated ← setting entries "compiler_generated" textOf markers.compilerGenerated
  return { reloadOnEnter, forceReload, runBeforeReload, orderProperty, compilerGenerated }

/-- Reads an item of an array, which may be too short for it. -/
def itemOf (items : List Value) (position : Nat) (default : String) : Option String :=
  match items[position]? with
  | none => some default
  | some value => textOf value

def ofItems (items : List Value) : Option Markers := do
  let markers : Markers := {}
  let reloadOnEnter ← itemOf items 0 markers.reloadOnEnter
  let forceReload ← itemOf items 1 markers.forceReload
  let runBeforeReload ← itemOf items 2 markers.runBeforeReload
  let orderProperty ← itemOf items 3 markers.orderProperty
  let compilerGenerated ← itemOf items 4 markers.compilerGenerated
  return { reloadOnEnter, forceReload, runBeforeReload, orderProperty, compilerGenerated }

/-- Reads the names of the attributes. A moment counts as a table without entries. -/
def ofValue : Value → Option Markers
  | .table _ entries => ofEntries entries
  | .array items | .tables items => ofItems items
  | .moment => some {}
  | _ => none

end Markers

namespace Settings

def ofEntries (entries : Entries) : Option Settings := do
  let standard := Settings.standard
  let hostDefine ← setting entries "host_define" textOf standard.hostDefine
  let markerModule ← setting entries "marker_module" textOf standard.markerModule
  let excludedModules ← setting entries "excluded_modules" textsOf standard.excludedModules
  let allowedModules ←
    setting entries "module_allow_list" (fun value => (textsOf value).map some)
      standard.allowedModules
  let markers ← setting entries "markers" Markers.ofValue standard.markers
  let checksOutput ← setting entries "validate_output" flagOf standard.checksOutput
  let emitsSymbols ← setting entries "emit_symbols" flagOf standard.emitsSymbols
  let warningsAreErrors ← setting entries "warnings_as_errors" flagOf standard.warningsAreErrors
  return { hostDefine, markerModule, excludedModules, allowedModules, markers, checksOutput,
           emitsSymbols, warningsAreErrors }

def ofText (text : String) : Option Settings := (Toml.parse text).bind ofEntries

end Settings

end Rekindle.Reload
