import Rekindle.Command.Instrument
import Rekindle.Command.Run

/-!
# Arguments

The words after the name of the program: a command, its inputs, and options, which may stand
anywhere behind the command. An option that takes a value is followed by it, and what may be given
several times replaces its default as a whole.
-/

namespace Rekindle.Command

/-- What the program is asked to do. -/
inductive Request where
  | inspect (input : String)
  | run (request : RunRequest)
  /-- Makes modules reloadable and reports to a reader or, as JSON, to a program. -/
  | instrument (request : InstrumentRequest) (asJson : Bool)
deriving DecidableEq, Repr

/-- Words that were sorted into inputs, options with a value and options without one. -/
structure Words where
  inputs : List String := []
  /-- The options with their values in the order they were given. -/
  options : List (String × String) := []
  flags : List String := []
deriving DecidableEq, Repr, Inhabited

namespace Words

def longName : String → String
  | "-o" => "--out-dir"
  | "-D" => "--define"
  | "-r" => "--reference"
  | "-c" => "--config"
  | "-e" => "--entry"
  | word => word

/-- Sorts words, where the options of a list take a value. -/
def sort (valued : List String) : List String → Option Words
  | [] => some {}
  | [word] =>
    if longName word ∈ valued then none
    else if word.startsWith "-" then some { flags := [word] }
    else some { inputs := [word] }
  | word :: value :: rest =>
    if longName word ∈ valued then do
      let words ← sort valued rest
      return { words with options := (longName word, value) :: words.options }
    else do
      let words ← sort valued (value :: rest)
      return if word.startsWith "-" then { words with flags := word :: words.flags }
        else { words with inputs := word :: words.inputs }

def values (words : Words) (option : String) : List String :=
  (words.options.filter fun entry => entry.1 = option).map (·.2)

/-- The value of an option, if it is given. -/
def value? (words : Words) (option : String) : Option String := (words.values option).getLast?

/-- The values of an option, or its default if it is not given. -/
def valuesOr (words : Words) (option : String) (default : List String) : List String :=
  if words.values option = [] then default else words.values option

/-- The number given by an option, or its default. -/
def numberOr (words : Words) (option : String) (default : Nat) : Option Nat :=
  match words.value? option with
  | none => some default
  | some text => if text.toList.all Char.isDigit then text.toNat? else none

end Words

def valuedOptions : List String :=
  ["--out-dir", "--define", "--reference", "--config", "--entry", "--reload", "--max-call-depth"]

def instrumentRequest (words : Words) : Option Request := do
  let folder ← words.value? "--out-dir"
  if words.inputs = [] then none
  let standard : InstrumentRequest := { inputs := words.inputs, folder }
  return .instrument
    { standard with
      defines := words.valuesOr "--define" standard.defines
      references := words.valuesOr "--reference" standard.references
      settings := words.value? "--config" }
    ("--json" ∈ words.flags)

def runRequest (words : Words) : Option Request := do
  let entry ← words.value? "--entry"
  if words.inputs = [] then none
  let reloads ← words.numberOr "--reload" 0
  let callDepth ← words.numberOr "--max-call-depth" 256
  return .run { inputs := words.inputs, entry, reloads, limits := { callDepth } }

def Request.parse : List String → Option Request
  | [] => none
  | command :: rest => do
    let words ← Words.sort valuedOptions rest
    match command, words.inputs with
    | "inspect", [input] => return .inspect input
    | "run", _ => runRequest words
    | "instrument", _ => instrumentRequest words
    | _, _ => none

def Request.paths : Request → List String
  | .inspect input => [input]
  | .run request => request.inputs
  | .instrument request _ =>
    request.settings.toList ++ request.inputs ++ request.inputs.map symbolsPath

def usage : String :=
  "usage: rekindle instrument MODULE... --out-dir DIR [--define NAME]... [--reference NAME]... " ++
    "[--config FILE] [--json]\n" ++
    "       rekindle inspect MODULE\n" ++
    "       rekindle run MODULE... --entry Type::Method [--reload N] [--max-call-depth N]\n"

end Rekindle.Command
