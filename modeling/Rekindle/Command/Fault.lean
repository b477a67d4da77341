import Rekindle.Reload.Cycle
import Rekindle.Reload.Process

/-!
# Faults of commands

Why a command could not do what it was asked for.
-/

namespace Rekindle.Command

/-- Why a command could not do what it was asked for. -/
inductive Fault where
  | unreadable (path reason : String)
  | image (fault : Image.Fault)
  /-- A module lists a member that does not exist. -/
  | dangling (handle : Dangling)
  | settings (fault : Reload.Settings.Fault)
  /-- A file of settings is not what such a file has to be. -/
  | settingsText (path : String)
  | limits (fault : Machine.Limits.Fault)
  | trap (cause : Machine.Trap)
  | cycle (fault : Reload.CycleFault)
  | duplicateModule (name first second : String)
  | invalidEntry (entry : String)
  | entryNotFound (entry : String)
  /-- A computation did not end within the steps it was given. -/
  | unfinished
deriving DecidableEq, Repr, Inhabited

def Fault.message : Fault → String
  | .unreadable path reason => "I/O error on " ++ path ++ ": " ++ reason
  | .image fault => "Invalid module image: " ++ fault.message
  | .dangling handle => "Formatting error: no entry for " ++ handle.text
  | .settings fault => "Invalid configuration: " ++ fault.message
  | .settingsText path => "Invalid configuration: " ++ path ++ ": not a table of settings"
  | .limits fault => "Invalid configuration: " ++ fault.message
  | .trap cause => "Runtime error: " ++ cause.message
  | .cycle fault => "Reload error: " ++ fault.message
  | .duplicateModule name first second =>
    "Module " ++ name ++ " given twice: " ++ first ++ " and " ++ second
  | .invalidEntry entry => "Entry point must be written as Type::Method, got '" ++ entry ++ "'"
  | .entryNotFound entry => "Entry point " ++ entry ++ " not found in any module"
  | .unfinished => "Runtime error: the computation did not end"

end Rekindle.Command
