import Rekindle.Binary64

/-!
# Primitive values in bytes

Natural numbers are written in as few bytes as their size asks for: one byte below 251, else a
mark and two, four or eight bytes, least significant first. Signed numbers are folded onto natural
ones, texts and lists begin with their length, and an optional value with zero or one. A reader
takes a value off the front of a list of bytes; it accepts every mark its type has room for, also
where fewer bytes would have done.
-/

namespace Rekindle.Image

/-- Why bytes could not be read. -/
inductive ReadFault where
  /-- The bytes are no value of the type. -/
  | malformed
  /-- A text claims more bytes than a memory can hold. -/
  | capacityExceeded
deriving DecidableEq, Repr, Inhabited

abbrev Reader := StateT (List UInt8) (Except ReadFault)

/-- The bytes of a number, least significant first. -/
def littleEndian : (count : Nat) → (n : Nat) → List UInt8
  | 0, _ => []
  | count + 1, n => UInt8.ofNat (n % 256) :: littleEndian count (n / 256)

/-- The number of some bytes, least significant first. -/
def ofLittleEndian : List UInt8 → Nat
  | [] => 0
  | byte :: bytes => byte.toNat + 256 * ofLittleEndian bytes

/-- Splits off exactly so many items, if there are that many. -/
def splitExactly {α : Type} : (count : Nat) → List α → Option (List α × List α)
  | 0, items => some ([], items)
  | _ + 1, [] => none
  | count + 1, item :: items =>
    (splitExactly count items).map fun (front, rest) => (item :: front, rest)

def takeBytes (count : Nat) : Reader (List UInt8) := fun bytes =>
  match splitExactly count bytes with
  | some split => .ok split
  | none => .error .malformed

def takeByte : Reader UInt8
  | [] => .error .malformed
  | byte :: bytes => .ok (byte, bytes)

def fail {α : Type} : Reader α := fun _ => .error .malformed

/-- The bytes of a natural number below two to the sixty-fourth. -/
def writeNat (n : Nat) : List UInt8 :=
  if n < 251 then [UInt8.ofNat n]
  else if n < 0x10000 then 251 :: littleEndian 2 n
  else if n < 0x100000000 then 252 :: littleEndian 4 n
  else 253 :: littleEndian 8 n

def readNat (width : Nat) : Reader Nat := do
  let mark ← takeByte
  if mark.toNat < 251 then return mark.toNat
  else if mark.toNat = 251 ∧ 2 ≤ width then return ofLittleEndian (← takeBytes 2)
  else if mark.toNat = 252 ∧ 4 ≤ width then return ofLittleEndian (← takeBytes 4)
  else if mark.toNat = 253 ∧ 8 ≤ width then return ofLittleEndian (← takeBytes 8)
  else fail

/-- Folds the integers onto the natural numbers: 0, -1, 1, -2, and so on. -/
def fold (n : Int) : Nat :=
  if 0 ≤ n then 2 * n.toNat else 2 * (-n - 1).toNat + 1

def unfold (n : Nat) : Int :=
  if n % 2 = 0 then (n / 2 : Nat) else -((n / 2 : Nat) : Int) - 1

@[simp]
theorem unfold_fold (n : Int) : unfold (fold n) = n := by
  simp only [fold, unfold]
  split <;> split <;> omega

/-- The bytes of a number of sixteen bits. -/
def writeUInt16 (n : UInt16) : List UInt8 := writeNat n.toNat

/-- Reads a number of sixteen bits. -/
def readUInt16 : Reader UInt16 := do return UInt16.ofNat (← readNat 2)

def writeUInt32 (n : UInt32) : List UInt8 := writeNat n.toNat

def readUInt32 : Reader UInt32 := do return UInt32.ofNat (← readNat 4)

def writeInt32 (n : Int32) : List UInt8 := writeNat (fold n.toInt)

def readInt32 : Reader Int32 := do return Int32.ofInt (unfold (← readNat 4))

/-- The bytes of a signed number of sixty-four bits. -/
def writeInt64 (n : Int64) : List UInt8 := writeNat (fold n.toInt)

/-- Reads a signed number of sixty-four bits. -/
def readInt64 : Reader Int64 := do return Int64.ofInt (unfold (← readNat 8))

/-- The bytes of a double, its bits least significant first. -/
def writeBinary64 (x : Binary64) : List UInt8 := littleEndian 8 x.bits.toNat

def readBinary64 : Reader Binary64 := do
  return ⟨UInt64.ofNat (ofLittleEndian (← takeBytes 8))⟩

def writeBool (b : Bool) : List UInt8 := [if b then 1 else 0]

def readBool : Reader Bool := do
  let byte ← takeByte
  if byte = 0 then return false
  else if byte = 1 then return true
  else fail

def writeOption {α : Type} (write : α → List UInt8) : Option α → List UInt8
  | none => [0]
  | some value => 1 :: write value

def readOption {α : Type} (read : Reader α) : Reader (Option α) := do
  if ← readBool then return some (← read) else return none

/-- The bytes of a text: its length and its UTF-8. -/
def writeText (text : String) : List UInt8 :=
  writeNat text.toByteArray.size ++ text.toByteArray.data.toList

def readText : Reader String := do
  let length ← readNat 8
  if 0x8000000000000000 ≤ length then throw .capacityExceeded
  match String.fromUTF8? ⟨(← takeBytes length).toArray⟩ with
  | some text => return text
  | none => fail

/-- The bytes of a list: its length and its items. -/
def writeList {α : Type} (write : α → List UInt8) (items : List α) : List UInt8 :=
  writeNat items.length ++ items.flatMap write

def readMany {α : Type} (read : Reader α) : Nat → Reader (List α)
  | 0 => return []
  | count + 1 => do
    let item ← read
    let items ← readMany read count
    return item :: items

def readList {α : Type} (read : Reader α) : Reader (List α) := do
  readMany read (← readNat 8)

end Rekindle.Image
