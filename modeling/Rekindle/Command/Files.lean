import Rekindle.Command.Fault

/-!
# Files

What a command sees of the files it is given: the bytes of a file or the reason why there are none.
A command says which files are to be written and leaves the writing to its caller.
-/

namespace Rekindle.Command

/-- The files a command can read. -/
structure Files where
  /-- Whether a path leads to a file. -/
  isFile : String → Bool
  /-- The bytes of the file at a path, or why it cannot be read. -/
  bytes : String → Except String (List UInt8)

/-- A file that is to be written. -/
structure WrittenFile where
  path : String
  bytes : List UInt8
deriving DecidableEq, Repr, Inhabited

namespace Files

/-- Files that were read before, by path. A path need not be spelled the way it was when its file
was read, but one that ends in a slash leads to no file. -/
def ofContents (contents : List (String × Except String (List UInt8))) : Files :=
  let at? (path : String) : Except String (List UInt8) :=
    match contents.find? fun entry => Text.Path.names entry.1 = Text.Path.names path with
    | some entry => if path.endsWith "/" then .error "not a file" else entry.2
    | none => .error "not read"
  { isFile := fun path => (at? path).isOk, bytes := at? }

def read (files : Files) (path : String) : Except Fault (List UInt8) :=
  (files.bytes path).mapError (.unreadable path)

def readText (files : Files) (path : String) : Except Fault String := do
  let bytes ← files.read path
  match String.fromUTF8? ⟨bytes.toArray⟩ with
  | some text => return text
  | none => throw (.unreadable path "stream did not contain valid UTF-8")

def readModule (files : Files) (path : String) : Except Fault Module := do
  let bytes ← files.read path
  (Image.toModule bytes).mapError .image

end Files

end Rekindle.Command
