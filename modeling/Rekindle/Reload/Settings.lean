import Rekindle.Text.Blank

/-!
# Settings

Which modules are made reloadable, by which attributes their types say so, and how strictly the
result is treated. Settings are usable when none of the names they consist of is blank.
-/

namespace Rekindle.Reload

/-- The names of the attributes that matter for reloading. -/
structure Markers where
  /-- Marks a type whose static state is reset by a reload. -/
  reloadOnEnter : String := "DotReload.ReloadOnEnterAttribute"
  /-- Marks a read-only field whose reset is intended. -/
  forceReload : String := "DotReload.ForceReloadAttribute"
  /-- Marks a routine that is run before its type is reset. -/
  runBeforeReload : String := "DotReload.RunBeforeReloadAttribute"
  /-- The property of that attribute that orders the routines of a type. -/
  orderProperty : String := "OrderInType"
  /-- Marks everything that is added to a module. -/
  compilerGenerated : String := "DotReload.CompilerServices.CompilerGeneratedAttribute"
deriving DecidableEq, Repr, Inhabited

namespace Markers

/-- A text without an ending, if it has it. -/
def withoutSuffix (text ending : List Char) : List Char :=
  if ending.isSuffixOf text then text.take (text.length - ending.length) else text

/-- The name by which a use site writes the attribute of intended resets: what follows the last
dot, without the ending `Attribute`. -/
def forceReloadShortName (markers : Markers) : String :=
  let last := (markers.forceReload.toList.reverse.takeWhile (· ≠ '.')).reverse
  String.ofList (withoutSuffix last "Attribute".toList)

def named (markers : Markers) : List (String × String) :=
  [("reload_on_enter", markers.reloadOnEnter), ("force_reload", markers.forceReload),
    ("run_before_reload", markers.runBeforeReload), ("order_property", markers.orderProperty),
    ("compiler_generated", markers.compilerGenerated)]

end Markers

/-- How modules are chosen and treated. -/
structure Settings where
  /-- The build symbol of modules that are built for the interactive host. -/
  hostDefine : String := "DOTRELOAD_HOST"
  /-- The module that defines the attributes; only modules that refer to it are processed. -/
  markerModule : String := "DotReload"
  /-- Modules that are never processed. -/
  excludedModules : List String := ["DotReload", "DotReload.Host"]
  /-- If given, the only modules that are processed. -/
  allowedModules : Option (List String) := none
  markers : Markers := {}
  /-- Whether every result is checked. -/
  checksOutput : Bool := true
  /-- Whether debug symbols that were read are written with the result. -/
  emitsSymbols : Bool := true
  /-- Whether a warning spoils the result. -/
  warningsAreErrors : Bool := false
deriving DecidableEq, Repr, Inhabited

namespace Settings

def standard : Settings := {}

/-- Settings under which warnings spoil the result, which is always checked. -/
def strict : Settings := { checksOutput := true, warningsAreErrors := true }

def forModules (names : List String) : Settings := { allowedModules := some names }

/-- What is wrong with settings. -/
inductive Fault where
  | blankHostDefine
  | blankMarkerModule
  | blankExcludedModule
  | emptyAllowList
  | blankMarker (word : String)
deriving DecidableEq, Repr, Inhabited

def Fault.message : Fault → String
  | .blankHostDefine => "Host define must not be empty"
  | .blankMarkerModule => "Marker module name must not be empty"
  | .blankExcludedModule => "Excluded module names must not be empty"
  | .emptyAllowList => "Module allow-list must not be empty when set"
  | .blankMarker word => "Marker name '" ++ word ++ "' must not be empty"

/-- The first thing that is wrong with settings, if there is any. -/
def fault? (settings : Settings) : Option Fault :=
  if Text.isBlank settings.hostDefine then some .blankHostDefine
  else if Text.isBlank settings.markerModule then some .blankMarkerModule
  else if settings.excludedModules.any Text.isBlank then some .blankExcludedModule
  else if settings.allowedModules = some [] then some .emptyAllowList
  else (settings.markers.named.find? fun named => Text.isBlank named.2).map
    fun named => .blankMarker named.1

end Settings

end Rekindle.Reload
