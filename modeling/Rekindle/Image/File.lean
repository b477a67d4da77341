import Rekindle.Image.Declaration

/-!
# Images

An image is a header of eight bytes, the checksum of the payload, and the payload, which holds one
module or the debug symbols of one. Reading checks the header byte by byte, then the length, then
the checksum, and at last the payload, which must be used up. Symbols must belong to the module they
are read for.
-/

namespace Rekindle.Image

/-- What an image holds. -/
inductive Kind where
  | module
  | symbols
deriving DecidableEq, Repr, Inhabited

namespace Kind

def byte : Kind → UInt8
  | .module => 0
  | .symbols => 1

def magic : Kind → List UInt8
  | .module => [0x44, 0x52, 0x4d, 0x4f, 0x44]
  | .symbols => [0x44, 0x52, 0x53, 0x59, 0x4d]

def text : Kind → String
  | .module => "Module"
  | .symbols => "Symbols"

end Kind

/-- Why an image could not be read. -/
inductive Fault where
  | truncated (size : Nat)
  | invalidMagic
  | unsupportedVersion (version : UInt8)
  | kindMismatch (expected : Kind) (found : UInt8)
  | checksumMismatch
  | malformed
  | trailingBytes (count : Nat)
  | symbolMismatch (module symbols : Identity)
  /-- A text of the payload claims more bytes than a memory can hold. -/
  | capacityExceeded
deriving DecidableEq, Repr, Inhabited

def Fault.message : Fault → String
  | .truncated size => "image is truncated: " ++ toString size ++ " bytes"
  | .invalidMagic => "invalid magic number"
  | .unsupportedVersion version => "unsupported format version " ++ toString version.toNat
  | .kindMismatch expected found =>
    "expected a " ++ expected.text ++ " image, found kind byte " ++ toString found.toNat
  | .checksumMismatch => "payload checksum mismatch"
  | .malformed => "decoding failed"
  | .trailingBytes count => toString count ++ " trailing bytes after payload"
  | .symbolMismatch module symbols =>
    "debug symbols belong to module " ++ symbols.text ++ ", not " ++ module.text
  | .capacityExceeded => "capacity overflow"

def currentVersion : UInt8 := 1

/-- The first eight bytes of an image. -/
structure Header where
  kind : Kind
  reserved : UInt8
deriving DecidableEq, Repr, Inhabited

namespace Header

def size : Nat := 8

def new (kind : Kind) : Header where
  kind
  reserved := 0

def bytes (header : Header) : List UInt8 :=
  header.kind.magic ++ [currentVersion, header.kind.byte, header.reserved]

def read (expected : Kind) (image : List UInt8) : Except Fault Header :=
  match image with
  | a :: b :: c :: d :: e :: version :: kind :: reserved :: _ =>
    if [a, b, c, d, e] ≠ expected.magic then .error .invalidMagic
    else if version ≠ currentVersion then .error (.unsupportedVersion version)
    else if kind ≠ expected.byte then .error (.kindMismatch expected kind)
    else .ok { kind := expected, reserved }
  | _ => .error (.truncated image.length)

end Header

def checksumSize : Nat := 32

/-- A payload as an image of a kind, under a function that computes checksums. -/
def sealWith (checksum : List UInt8 → Checksum.Digest) (kind : Kind) (payload : List UInt8) :
    List UInt8 :=
  (Header.new kind).bytes ++ ((checksum payload).toList ++ payload)

/-- Reads what an image of a kind holds, under a function that computes checksums. -/
def openWith {α : Type} (checksum : List UInt8 → Checksum.Digest) (kind : Kind)
    (reader : Reader α) (image : List UInt8) : Except Fault α := do
  let _ ← Header.read kind image
  match splitExactly checksumSize (image.drop Header.size) with
  | none => throw (.truncated image.length)
  | some (noted, payload) =>
    if (checksum payload).toList ≠ noted then throw .checksumMismatch
    match reader payload with
    | .error .malformed => throw .malformed
    | .error .capacityExceeded => throw .capacityExceeded
    | .ok (value, []) => return value
    | .ok (_, rest) => throw (.trailingBytes rest.length)

/-- The image of a module under a function that computes checksums. -/
def ofModuleWith (checksum : List UInt8 → Checksum.Digest) (module : Module) : List UInt8 :=
  sealWith checksum .module (writeModule module)

/-- The module of an image under a function that computes checksums. -/
def toModuleWith (checksum : List UInt8 → Checksum.Digest) (image : List UInt8) :
    Except Fault Module :=
  openWith checksum .module readModule image

/-- The image of debug symbols under a function that computes checksums. -/
def ofSymbolsWith (checksum : List UInt8 → Checksum.Digest) (symbols : Symbols) : List UInt8 :=
  sealWith checksum .symbols (writeSymbols symbols)

/-- The debug symbols of an image, which must belong to a module, under a function that computes
checksums. -/
def toSymbolsWith (checksum : List UInt8 → Checksum.Digest) (identity : Identity)
    (image : List UInt8) : Except Fault Symbols := do
  let symbols ← openWith checksum .symbols readSymbols image
  if symbols.identity ≠ identity then throw (.symbolMismatch identity symbols.identity)
  return symbols

def ofModule (module : Module) : List UInt8 := ofModuleWith Checksum.Blake3.digest module

def toModule (image : List UInt8) : Except Fault Module :=
  toModuleWith Checksum.Blake3.digest image

def ofSymbols (symbols : Symbols) : List UInt8 := ofSymbolsWith Checksum.Blake3.digest symbols

/-- The debug symbols of an image, which must belong to a module. -/
def toSymbols (identity : Identity) (image : List UInt8) : Except Fault Symbols :=
  toSymbolsWith Checksum.Blake3.digest identity image

/-- The module of an image and its symbols, if an image of them is given. -/
def toModuleAndSymbols (image : List UInt8) (symbols : Option (List UInt8)) :
    Except Fault (Module × Option Symbols) := do
  let module ← toModule image
  match symbols with
  | none => return (module, none)
  | some bytes => return (module, some (← toSymbols module.identity bytes))

end Rekindle.Image
