import Rekindle.Image.File
import Rekindle.Module.Edit
import Rekindle.Reload.Settings
import Rekindle.Validity.Defect

/-!
# Faults

Why a module could not be made reloadable.
-/

namespace Rekindle.Reload

/-- Why a module could not be made reloadable. -/
inductive Fault where
  | image (fault : Image.Fault)
  | invalid (defect : Defect)
  | module (fault : ModuleFault)
  /-- The property that orders a teardown routine holds something else than a number. -/
  | invalidOrderKey (routine property found : String)
  | dispatcherExists (name : String)
  | missingBody (routine : String)
  | invalidSettings (fault : Settings.Fault)
  /-- The work could not be carried on at all. -/
  | abandoned (reason : String)
deriving DecidableEq, Repr, Inhabited

namespace Fault

def message : Fault → String
  | .image fault => "Codec error: " ++ fault.message
  | .invalid defect => "Validation failed: " ++ defect.message
  | .module fault => "Module error: " ++ fault.message
  | .invalidOrderKey routine property found =>
    "Invalid " ++ property ++ " on " ++ routine ++ ": expected an i32 constant, found " ++ found
  | .dispatcherExists name => "Module already contains the dispatcher type " ++ name
  | .missingBody routine => "Routine " ++ routine ++ " has no body"
  | .invalidSettings fault => "Invalid configuration: " ++ fault.message
  | .abandoned reason => "Engine panicked: " ++ reason

/-- Whether the input is to blame, which could not be read or is malformed. -/
def isStructural : Fault → Bool
  | .image _ | .invalid _ => true
  | _ => false

/-- The fault of an image that could not be read. A text that no memory can hold stops the work. -/
def ofImage : Image.Fault → Fault
  | .capacityExceeded => .abandoned Image.Fault.capacityExceeded.message
  | fault => .image fault

end Fault

end Rekindle.Reload
