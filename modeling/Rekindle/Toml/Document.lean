import Rekindle.Toml.Number
import Rekindle.Toml.Value

/-!
# TOML documents

A document is read line by line. A header opens a table, whose entries are collected until the next
header; it may then no longer be opened, nor may anything else be defined twice. Dotted keys and
headers make the tables on their way where these are missing.
-/

namespace Rekindle.Toml

/-- Puts something into the table that a path leads to from a table. Tables that are missing on the
way come about as `fresh` says; `enters` says which may be entered. The path goes through the last
of several tables under one header. -/
def descend (fresh : Origin) (enters : Origin → Bool)
    (edit : Origin → Entries → Option Entries) :
    (path : List String) → Origin → Entries → Option Entries
  | [], origin, entries => edit origin entries
  | key :: path, _, entries =>
    match entries.get? key with
    | none => do
      let inner ← descend fresh enters edit path fresh []
      return entries.put key (.table fresh inner)
    | some (.table origin inner) =>
      if enters origin then do
        let inner ← descend fresh enters edit path origin inner
        return entries.put key (.table origin inner)
      else none
    | some (.tables items) =>
      match items.getLast? with
      | some (.table origin inner) => do
        let inner ← descend fresh enters edit path origin inner
        return entries.put key (.tables (items.dropLast ++ [.table origin inner]))
      | _ => none
    | some _ => none

/-- Adds a new entry to a table; a dotted key must end in a table that a dotted key made. -/
def addEntry (byDots : Origin) (path : List String) (key : String) (value : Value)
    (origin : Origin) (entries : Entries) : Option Entries :=
  if (origin == byDots) == path.isEmpty then none
  else
    match entries.get? key with
    | some _ => none
    | none => some (entries.put key value)

def splitKey (parts : List String) : Option (List String × String) :=
  parts.getLast?.map fun last => (parts.dropLast, last)

def addWritten (entries : Entries) (parts : List String) (value : Value) : Option Entries := do
  let (path, key) ← splitKey parts
  descend .writtenDotted (fun origin => origin = .writtenDotted)
    (addEntry .writtenDotted path key value) path .written entries

def word (expected : List Char) (text : List Char) : Option (List Char) :=
  if expected.isPrefixOf text then some (text.drop expected.length) else none

def scalar (text : List Char) : Option (Value × List Char) :=
  match text with
  | '"' :: _ | '\'' :: _ => (string text).map fun (read, rest) => (.string read, rest)
  | 't' :: _ => (word ['t', 'r', 'u', 'e'] text).map fun rest => (.boolean true, rest)
  | 'f' :: _ => (word ['f', 'a', 'l', 's', 'e'] text).map fun rest => (.boolean false, rest)
  | _ =>
    match moment text with
    | some rest => some (.moment, rest)
    | none =>
      match float text with
      | some (_, rest) => some (.float, rest)
      | none => (integer text).map fun (number, rest) => (.integer number, rest)

/-- Takes the items of an array and its end, over at most so many steps. -/
def items (value : Reader Value) : (steps : Nat) → Reader (List Value)
  | 0, _ => none
  | steps + 1, text =>
    match skipAllVoid text with
    | ']' :: rest => some ([], rest)
    | text => do
      let (item, rest) ← value text
      match skipAllVoid rest with
      | ',' :: rest =>
        let (others, rest) ← items value steps rest
        return (item :: others, rest)
      | ']' :: rest => return ([item], rest)
      | _ => none

/-- Takes an entry: a key, an equals sign and a value. -/
def entry (value : Reader Value) (text : List Char) :
    Option ((List String × Value) × List Char) := do
  let (parts, rest) ← key text
  let rest ← character '=' rest
  let (read, rest) ← value (skipBlanks rest)
  return ((parts, read), rest)

/-- Takes the entries of a table between braces and its end, over at most so many steps. -/
def writtenEntries (value : Reader Value) : (steps : Nat) → Entries → Reader Entries
  | 0, _, _ => none
  | steps + 1, entries, text => do
    let ((parts, read), rest) ← entry value text
    let entries ← addWritten entries parts read
    match skipBlanks rest with
    | ',' :: rest => writtenEntries value steps entries rest
    | '}' :: rest => return (entries, rest)
    | _ => none

def valueWithin : (depth : Nat) → Reader Value
  | 0, text => if text.head? = some '[' ∨ text.head? = some '{' then none else scalar text
  | depth + 1, text =>
    match text with
    | '[' :: rest =>
      (items (valueWithin depth) (rest.length + 1) rest).map fun (read, rest) => (.array read, rest)
    | '{' :: rest =>
      match skipBlanks rest with
      | '}' :: rest => some (.table .written [], rest)
      | rest =>
        (writtenEntries (valueWithin depth) (rest.length + 1) [] rest).map
          fun (entries, rest) => (.table .written entries, rest)
    | _ => scalar text

def value (text : List Char) : Option (Value × List Char) := valueWithin (nestingLimit - 1) text

/-- A document that has been read up to some line. -/
structure State where
  /-- What the tables before the open one hold. -/
  root : Entries
  /-- What the open table holds. -/
  current : Entries
  /-- The way to the open table. -/
  path : List String
  /-- Whether the open table is one of several under its header. -/
  isOneOfMany : Bool

def close (state : State) : Option Entries :=
  match splitKey state.path with
  | none => some state.current
  | some (path, key) =>
    descend .implied (· matches .header | .implied | .dotted)
      (fun _ entries =>
        if state.isOneOfMany then
          match entries.get? key with
          | none => some (entries.put key (.tables [.table .header state.current]))
          | some (.tables others) =>
            some (entries.put key (.tables (others ++ [.table .header state.current])))
          | some _ => none
        else
          match entries.get? key with
          | none => some (entries.put key (.table .header state.current))
          | some _ => none)
      path .header state.root

/-- Looks up what is under a path whose last part is a key, if the way there can be gone. -/
def lookup : (path : List String) → (key : String) → Entries → Option Value
  | [], key, entries => entries.get? key
  | part :: path, key, entries =>
    match entries.get? part with
    | some (.table _ inner) => lookup path key inner
    | some (.tables items) =>
      match items.getLast? with
      | some (.table _ inner) => lookup path key inner
      | _ => none
    | _ => none

def openTable (state : State) (parts : List String) : Option State := do
  let root ← close state
  let (path, key) ← splitKey parts
  let taken := lookup path key root
  let current ←
    match taken with
    | none => some []
    | some (.table .implied inner) => some inner
    | some _ => none
  let root ← descend .implied (· matches .header | .implied | .dotted)
    (fun _ entries => some (entries.remove key)) path .header root
  return { root, current, path := parts, isOneOfMany := false }

def openOneOfMany (state : State) (parts : List String) : Option State := do
  let root ← close state
  let (path, key) ← splitKey parts
  match lookup path key root with
  | none | some (.tables _) =>
    let root ← descend .implied (· matches .header | .implied | .dotted)
      (fun _ entries => some entries) path .header root
    return { root, current := [], path := parts, isOneOfMany := true }
  | some _ => none

def addLine (state : State) (parts : List String) (read : Value) : Option State := do
  let (path, key) ← splitKey parts
  let current ← descend .dotted (· matches .implied | .dotted)
    (addEntry .dotted path key read) path .header state.current
  return { state with current }

def line (state : State) (text : List Char) : Option (State × List Char) :=
  match text with
  | '[' :: '[' :: rest => do
    let (parts, rest) ← key rest
    let rest ← word [']', ']'] rest
    let state ← openOneOfMany state parts
    return (state, ← endOfLine rest)
  | '[' :: rest => do
    let (parts, rest) ← key rest
    let rest ← word [']'] rest
    let state ← openTable state parts
    return (state, ← endOfLine rest)
  | _ => do
    let ((parts, read), rest) ← entry value text
    let state ← addLine state parts read
    return (state, ← endOfLine rest)

/-- Reads lines up to the end of the document, over at most so many steps. -/
def lines : (steps : Nat) → State → List Char → Option State
  | 0, _, _ => none
  | steps + 1, state, text =>
    match skipBlanks text with
    | [] => some state
    | '#' :: rest => (endOfLine ('#' :: rest)).bind fun rest => lines steps state rest
    | '\n' :: rest => lines steps state rest
    | '\r' :: rest => (newline? ('\r' :: rest)).bind fun rest => lines steps state rest
    | text => (line state text).bind fun (state, rest) => lines steps state rest

/-- Leaves out the mark of the byte order, if there is one. -/
def skipMark : List Char → List Char
  | '\ufeff' :: rest => rest
  | text => text

def parse (text : String) : Option Entries := do
  let characters := skipMark text.toList
  let start : State := { root := [], current := [], path := [], isOneOfMany := false }
  let state ← lines (characters.length + 1) start characters
  close state

end Rekindle.Toml
