/-!
# TOML values

What a TOML document consists of. A table remembers how it came about, because that decides which
later lines may still add to it: a table under a header of its own or written inline is complete, a
table that only a longer header or a dotted key implies is open.
-/

namespace Rekindle.Toml

/-- How a table came about. -/
inductive Origin where
  /-- The document itself, or a header of its own. -/
  | header
  /-- The header of a table inside it. -/
  | implied
  /-- A dotted key. -/
  | dotted
  /-- Written between braces. -/
  | written
  /-- A dotted key between braces. -/
  | writtenDotted
deriving DecidableEq, Repr, Inhabited

/-- A value of a document. -/
inductive Value where
  | string (text : String)
  | integer (number : Int)
  /-- A number with a fraction or an exponent, or one that is infinite or none. -/
  | float
  | boolean (value : Bool)
  /-- A date, a time or both. -/
  | moment
  | array (items : List Value)
  | table (origin : Origin) (entries : List (String × Value))
  /-- The tables under headers in double brackets. -/
  | tables (items : List Value)
deriving Repr, Inhabited

abbrev Entries := List (String × Value)

namespace Entries

def get? (entries : Entries) (key : String) : Option Value :=
  (entries.find? fun entry => entry.1 = key).map (·.2)

/-- Puts a value under a key, in place of one that was there. -/
def put (entries : Entries) (key : String) (value : Value) : Entries :=
  if entries.any (fun entry => entry.1 = key) then
    entries.map fun entry => if entry.1 = key then (key, value) else entry
  else entries ++ [(key, value)]

def remove (entries : Entries) (key : String) : Entries :=
  entries.filter fun entry => entry.1 ≠ key

end Entries

end Rekindle.Toml
