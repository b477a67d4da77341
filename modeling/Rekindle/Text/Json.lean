/-!
# JSON

A tree of texts, numbers, arrays and objects is written as JSON, one item or entry per line with
two more spaces for each level. Inside a text, quotes, backslashes and control characters have
escapes and everything else stands for itself.
-/

namespace Rekindle.Text

/-- A tree that is written as JSON. -/
inductive Json where
  | string (text : String)
  | number (value : Nat)
  | array (items : List Json)
  /-- The entries in the order they are written. -/
  | object (entries : List (String × Json))
deriving Repr, Inhabited

namespace Json

/-- The spelling of a control character without an escape of its own. -/
def controlEscape (c : Char) : String :=
  "\\u00" ++ String.ofList [Nat.digitChar (c.toNat / 16), Nat.digitChar (c.toNat % 16)]

def escapeChar (c : Char) : String :=
  match c with
  | '"' => "\\\""
  | '\\' => "\\\\"
  | '\x08' => "\\b"
  | '\t' => "\\t"
  | '\n' => "\\n"
  | '\x0c' => "\\f"
  | '\r' => "\\r"
  | c => if c.toNat < 32 then controlEscape c else c.toString

def escape (text : String) : String :=
  "\"" ++ String.join (text.toList.map escapeChar) ++ "\""

def indent (level : Nat) : String := "\n" ++ String.ofList (List.replicate (2 * level) ' ')

mutual

def textAt (level : Nat) : Json → String
  | .string text => escape text
  | .number value => toString value
  | .array [] => "[]"
  | .array (item :: items) =>
    "[" ++ indent (level + 1) ++ textAt (level + 1) item ++ itemsAt (level + 1) items ++
      indent level ++ "]"
  | .object [] => "\x7b\x7d"
  | .object ((key, value) :: entries) =>
    "\x7b" ++ indent (level + 1) ++ escape key ++ ": " ++ textAt (level + 1) value ++
      entriesAt (level + 1) entries ++ indent level ++ "\x7d"

/-- The texts of the items after the first, on a level. -/
def itemsAt (level : Nat) : List Json → String
  | [] => ""
  | item :: items => "," ++ indent level ++ textAt level item ++ itemsAt level items

/-- The texts of the entries after the first, on a level. -/
def entriesAt (level : Nat) : List (String × Json) → String
  | [] => ""
  | (key, value) :: entries =>
    "," ++ indent level ++ escape key ++ ": " ++ textAt level value ++ entriesAt level entries

end

def text (tree : Json) : String := textAt 0 tree

end Json

end Rekindle.Text
