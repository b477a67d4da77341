import Rekindle.Command.Files
import Rekindle.Listing

/-!
# Inspecting a module

The listing of the module in a file.
-/

namespace Rekindle.Command

def inspect (files : Files) (path : String) : Except Fault String := do
  let module ← files.readModule path
  (Listing.render module).mapError .dangling

end Rekindle.Command
