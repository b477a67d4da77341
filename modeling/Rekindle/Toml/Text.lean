/-!
# Texts and keys of TOML

The lexical parts of a document: blanks, comments, ends of lines, the four kinds of strings, and
keys. A reader takes its part off the front of a list of characters, or fails.
-/

namespace Rekindle.Toml

abbrev Reader (α : Type) := List Char → Option (α × List Char)

def isBlank (c : Char) : Bool := c = ' ' || c = '\t'

def skipBlanks (text : List Char) : List Char := text.dropWhile isBlank

def newline? : List Char → Option (List Char)
  | '\n' :: rest => some rest
  | '\r' :: '\n' :: rest => some rest
  | _ => none

def inComment (c : Char) : Bool :=
  c = '\t' || (0x20 ≤ c.toNat && c.toNat ≠ 0x7f)

/-- Leaves out a comment, if there is one. -/
def skipComment : List Char → List Char
  | '#' :: rest => rest.dropWhile inComment
  | text => text

/-- Takes what may follow on a line, and its end. -/
def endOfLine (text : List Char) : Option (List Char) :=
  match skipComment (skipBlanks text) with
  | [] => some []
  | rest => newline? rest

/-- Leaves out blanks, comments and ends of lines, over at most so many steps. -/
def skipVoid : (steps : Nat) → List Char → List Char
  | 0, text => text
  | steps + 1, text =>
    match skipBlanks text with
    | '#' :: rest =>
      match newline? (rest.dropWhile inComment) with
      | some next => skipVoid steps next
      | none => '#' :: rest
    | rest =>
      match newline? rest with
      | some next => skipVoid steps next
      | none => rest

/-- Leaves out blanks, comments and ends of lines. -/
def skipAllVoid (text : List Char) : List Char := skipVoid (text.length + 1) text

/-- The value of a digit of a base up to sixteen. -/
def digit? (base : Nat) (c : Char) : Option Nat :=
  let value :=
    if '0' ≤ c ∧ c ≤ '9' then c.toNat - '0'.toNat
    else if 'a' ≤ c ∧ c ≤ 'f' then c.toNat - 'a'.toNat + 10
    else if 'A' ≤ c ∧ c ≤ 'F' then c.toNat - 'A'.toNat + 10
    else base
  if value < base then some value else none

def number? (base : Nat) (digits : List Char) : Option Nat :=
  digits.foldlM (fun value c => (digit? base c).map (base * value + ·)) 0

def scalar? (digits : List Char) : Option Char :=
  (number? 16 digits).bind fun value =>
    if value.isValidChar then some (Char.ofNat value) else none

def escape : Reader Char
  | 'b' :: rest => some ('\x08', rest)
  | 't' :: rest => some ('\t', rest)
  | 'n' :: rest => some ('\n', rest)
  | 'f' :: rest => some ('\x0c', rest)
  | 'r' :: rest => some ('\r', rest)
  | '"' :: rest => some ('"', rest)
  | '\\' :: rest => some ('\\', rest)
  | 'u' :: rest =>
    if 4 ≤ rest.length then (scalar? (rest.take 4)).map (·, rest.drop 4) else none
  | 'U' :: rest =>
    if 8 ≤ rest.length then (scalar? (rest.take 8)).map (·, rest.drop 8) else none
  | _ => none

def inBasic (c : Char) : Bool :=
  c = '\t' || (0x20 ≤ c.toNat && c ≠ '"' && c ≠ '\\' && c.toNat ≠ 0x7f)

def inLiteral (c : Char) : Bool :=
  c = '\t' || (0x20 ≤ c.toNat && c ≠ '\'' && c.toNat ≠ 0x7f)

/-- Takes the rest of a string in double quotes, over at most so many steps. -/
def basicRest : (steps : Nat) → Reader (List Char)
  | 0, _ => none
  | _ + 1, [] => none
  | steps + 1, c :: rest =>
    if c = '"' then some ([], rest)
    else if c = '\\' then do
      let (escaped, rest) ← escape rest
      let (others, rest) ← basicRest steps rest
      return (escaped :: others, rest)
    else if inBasic c then do
      let (others, rest) ← basicRest steps rest
      return (c :: others, rest)
    else none

def literalRest (text : List Char) : Option (List Char × List Char) :=
  match text.dropWhile inLiteral with
  | '\'' :: rest => some (text.takeWhile inLiteral, rest)
  | _ => none

def skipLines : (steps : Nat) → List Char → List Char
  | 0, text => text
  | steps + 1, text =>
    match newline? (skipBlanks text) with
    | some rest => skipLines steps rest
    | none => skipBlanks text

/-- Takes the rest of a string in three double or single quotes, over at most so many steps. In a
string in double quotes a backslash escapes a character, or the end of its line with all blanks and
ends of lines that follow. Up to two quotes may precede those that end the string. -/
def longRest (quote : Char) : (steps : Nat) → Reader (List Char)
  | 0, _ => none
  | _ + 1, [] => none
  | steps + 1, c :: rest =>
    if c = quote then
      let run := (c :: rest).takeWhile (· = quote)
      let others := (c :: rest).dropWhile (· = quote)
      if run.length < 3 then do
        let (content, others) ← longRest quote steps others
        return (run ++ content, others)
      else if run.length ≤ 5 then some (run.drop 3, others)
      else none
    else if c = '\\' ∧ quote = '"' then
      match newline? (skipBlanks rest) with
      | some next => longRest quote steps (skipLines steps next)
      | none => do
        let (escaped, rest) ← escape rest
        let (others, rest) ← longRest quote steps rest
        return (escaped :: others, rest)
    else
      match newline? (c :: rest) with
      | some next => do
        let (others, next) ← longRest quote steps next
        return ('\n' :: others, next)
      | none =>
        if c = '\t' ∨ (0x20 ≤ c.toNat ∧ c.toNat ≠ 0x7f) then do
          let (others, rest) ← longRest quote steps rest
          return (c :: others, rest)
        else none

/-- Leaves out the end of a line, if there is one. -/
def skipNewline (text : List Char) : List Char := (newline? text).getD text

def string (text : List Char) : Option (String × List Char) :=
  let steps := text.length + 1
  let content :=
    match text with
    | '"' :: '"' :: '"' :: rest => longRest '"' steps (skipNewline rest)
    | '\'' :: '\'' :: '\'' :: rest => longRest '\'' steps (skipNewline rest)
    | '"' :: rest => basicRest steps rest
    | '\'' :: rest => literalRest rest
    | _ => none
  content.map fun (characters, rest) => (String.ofList characters, rest)

def inBareKey (c : Char) : Bool := c.isAlphanum || c = '_' || c = '-'

def simpleKey : Reader String
  | '"' :: rest => do
    let (characters, rest) ← basicRest (rest.length + 1) rest
    return (String.ofList characters, rest)
  | '\'' :: rest => do
    let (characters, rest) ← literalRest rest
    return (String.ofList characters, rest)
  | text =>
    let characters := text.takeWhile inBareKey
    if characters.isEmpty then none
    else some (String.ofList characters, text.dropWhile inBareKey)

/-- Takes the parts of a key, over at most so many steps. -/
def keyParts : (steps : Nat) → Reader (List String)
  | 0, _ => none
  | steps + 1, text => do
    let (part, rest) ← simpleKey (skipBlanks text)
    match skipBlanks rest with
    | '.' :: rest =>
      let (parts, rest) ← keyParts steps rest
      return (part :: parts, rest)
    | rest => return ([part], rest)

/-- How deep values may be nested and keys be dotted, exclusively. -/
def nestingLimit : Nat := 80

def key (text : List Char) : Option (List String × List Char) :=
  (keyParts nestingLimit text).filter fun (parts, _) => parts.length < nestingLimit

end Rekindle.Toml
