import Rekindle.Symbols

/-!
# Diagnostics

What is reported about a module besides the result: warnings and errors, with the place in the
source where it is known.
-/

namespace Rekindle.Reload

/-- How bad it is. -/
inductive Severity where
  | warning
  | error
deriving DecidableEq, Repr, Inhabited

def Severity.text : Severity → String
  | .warning => "warning"
  | .error => "error"

/-- A warning or an error. -/
structure Diagnostic where
  severity : Severity
  message : String
  location : Option Location
deriving DecidableEq, Repr, Inhabited

namespace Diagnostic

def warning (message : String) : Diagnostic := ⟨.warning, message, none⟩

def error (message : String) : Diagnostic := ⟨.error, message, none⟩

def isError (diagnostic : Diagnostic) : Bool := diagnostic.severity = .error

def promoted (diagnostic : Diagnostic) : Diagnostic := { diagnostic with severity := .error }

def text (diagnostic : Diagnostic) : String :=
  (match diagnostic.location with
    | some location => location.text ++ ": "
    | none => "") ++
  diagnostic.severity.text ++ ": " ++ diagnostic.message

end Diagnostic

end Rekindle.Reload
