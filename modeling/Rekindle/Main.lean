import Rekindle.Command.Arguments
import Rekindle.Command.Inspect

/-!
# The program

Reads the files a request names, answers the request, and writes what the answer says. Everything
that is decided is decided elsewhere.
-/

namespace Rekindle

open Command (Files Request WrittenFile)

def stepLimit : Nat := 1000000000000000000

/-- Reads a file, or learns why it cannot be read. -/
def readFile (path : String) : IO (String × Except String (List UInt8)) := do
  try
    let bytes ← IO.FS.readBinFile path
    return (path, .ok bytes.data.toList)
  catch failure => return (path, .error (toString failure))

def writeFiles (folder : String) (written : List WrittenFile) : IO Unit := do
  IO.FS.createDirAll folder
  written.forM fun file => IO.FS.writeBinFile file.path ⟨file.bytes.toArray⟩

def refuse (fault : Command.Fault) : IO UInt32 := do
  IO.eprintln ("error: " ++ fault.message)
  return 1

def answer (request : Request) : IO UInt32 := do
  let contents ← request.paths.mapM readFile
  let files := Files.ofContents contents
  match request with
  | .inspect input =>
    match Command.inspect files input with
    | .error fault => refuse fault
    | .ok listing => do
      IO.print listing
      return 0
  | .run request =>
    match Command.run stepLimit files request with
    | .error fault => refuse fault
    | .ok summary => do
      IO.print summary.text
      return 0
  | .instrument request asJson =>
    let (written, outcome) := Command.makeReloadable files request
    match outcome with
    | .error fault => do
      unless written.isEmpty do writeFiles request.folder written
      refuse fault
    | .ok summary => do
      writeFiles request.folder written
      if asJson then IO.println summary.json else IO.print summary.text
      return if summary.hasFailures then 1 else 0

end Rekindle

def main (arguments : List String) : IO UInt32 := do
  match Rekindle.Command.Request.parse arguments with
  | some request => Rekindle.answer request
  | none =>
    IO.eprint Rekindle.Command.usage
    return 2
