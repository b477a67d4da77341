import Rekindle.Toml.Text

/-!
# Numbers and moments of TOML

Integers of four bases that fit sixty-four bits, floating point numbers that are not too great, and
dates and times of the calendar.
-/

namespace Rekindle.Toml

/-- Takes digits of a base; single underscores may stand between them. -/
def digits (base : Nat) : (steps : Nat) → Reader (List Char)
  | 0, _ => none
  | _ + 1, [] => none
  | steps + 1, c :: rest =>
    if (digit? base c).isNone then none
    else
      let continued :=
        match rest with
        | '_' :: next => (digits base steps next).map fun (others, left) => (c :: others, left)
        | _ => (digits base steps rest).map fun (others, left) => (c :: others, left)
      match continued with
      | some read => some read
      | none => some ([c], rest)

/-- Takes digits of a base, however many. -/
def allDigits (base : Nat) (text : List Char) : Option (List Char × List Char) :=
  digits base (text.length + 1) text

/-- Takes a sign, if there is one, and says whether it is a minus. -/
def sign : List Char → Bool × List Char
  | '+' :: rest => (false, rest)
  | '-' :: rest => (true, rest)
  | text => (false, text)

/-- Takes decimal digits without superfluous zeros in front. -/
def plainDigits : Reader (List Char)
  | '0' :: rest => some (['0'], rest)
  | text => allDigits 10 text

/-- What the magnitude of an integer of sixty-four bits stays below, unless it is negative. -/
def integerRange : Nat := 0x8000000000000000

/-- Takes an integer of another base, after its mark. -/
def based (base : Nat) (text : List Char) : Option (Int × List Char) := do
  let (ds, rest) ← allDigits base text
  let value ← number? base ds
  if value < integerRange then return ((value : Int), rest) else none

def integer : Reader Int
  | '0' :: 'x' :: rest => based 16 rest
  | '0' :: 'o' :: rest => based 8 rest
  | '0' :: 'b' :: rest => based 2 rest
  | text => do
    let (negative, rest) := sign text
    let (ds, rest) ← plainDigits rest
    let value ← number? 10 ds
    if negative then
      if value ≤ integerRange then return (-(value : Int), rest) else none
    else if value < integerRange then return ((value : Int), rest)
    else none

/-- Takes an exponent, if there is one. -/
def exponent : List Char → Option (Option Int × List Char)
  | 'e' :: text | 'E' :: text => do
    let (negative, rest) := sign text
    let (ds, rest) ← allDigits 10 rest
    let value ← number? 10 ds
    return (some (if negative then -(value : Int) else value), rest)
  | text => some (none, text)

/-- Takes a fraction, if there is one. -/
def fraction : List Char → Option (Option (List Char) × List Char)
  | '.' :: text => (allDigits 10 text).map fun (ds, rest) => (some ds, rest)
  | text => some (none, text)

/-- Whether a decimal is so great that it rounds to infinity as a double. -/
def isTooGreat (ds : List Char) (exponent : Int) : Bool :=
  match number? 10 ds with
  | none => false
  | some value =>
    let size := (Nat.toDigits 10 value).length
    if value = 0 ∨ size + exponent < 300 then false
    else if 320 < size + exponent then true
    else
      (Nat.pow 2 1024 - Nat.pow 2 970) * Nat.pow 10 (-exponent).toNat ≤
        value * Nat.pow 10 exponent.toNat

def float (text : List Char) : Option (Unit × List Char) := do
  let (negative, rest) := sign text
  match rest with
  | 'i' :: 'n' :: 'f' :: rest => return ((), rest)
  | 'n' :: 'a' :: 'n' :: rest => return ((), rest)
  | rest =>
    let (whole, rest) ← plainDigits rest
    let (part, rest) ← fraction rest
    let (power, rest) ← exponent rest
    if part.isNone && power.isNone then none
    else
      let behind := part.getD []
      if !negative && isTooGreat (whole ++ behind) (power.getD 0 - behind.length) then none
      else return ((), rest)

def fixed (count low high : Nat) (text : List Char) : Option (Nat × List Char) := do
  let value ← number? 10 (text.take count)
  if count ≤ text.length ∧ low ≤ value ∧ value ≤ high then return (value, text.drop count) else none

def character (c : Char) : List Char → Option (List Char)
  | head :: rest => if head = c then some rest else none
  | [] => none

def daysIn (year month : Nat) : Nat :=
  if month = 2 then
    if year % 4 = 0 ∧ (year % 100 ≠ 0 ∨ year % 400 = 0) then 29 else 28
  else if month = 4 ∨ month = 6 ∨ month = 9 ∨ month = 11 then 30
  else 31

def date (text : List Char) : Option (List Char) := do
  let (year, rest) ← fixed 4 0 9999 text
  let (month, rest) ← fixed 2 1 12 (← character '-' rest)
  let (_, rest) ← fixed 2 1 (daysIn year month) (← character '-' rest)
  return rest

def time (text : List Char) : Option (List Char) := do
  let (_, rest) ← fixed 2 0 23 text
  let (_, rest) ← fixed 2 0 59 (← character ':' rest)
  let (_, rest) ← fixed 2 0 60 (← character ':' rest)
  match rest with
  | '.' :: c :: rest => if c.isDigit then return rest.dropWhile Char.isDigit else none
  | '.' :: [] => none
  | rest => return rest

/-- Takes the offset of a time zone, if there is one. -/
def zone : List Char → Option (List Char)
  | 'Z' :: rest | 'z' :: rest => some rest
  | '+' :: rest | '-' :: rest => do
    let (_, rest) ← fixed 2 0 23 rest
    let (_, rest) ← fixed 2 0 59 (← character ':' rest)
    return rest
  | text => some text

/-- Takes a time of the day behind a date, if there is one. -/
def timeBehind (text : List Char) : Option (List Char) :=
  match text with
  | 'T' :: rest | 't' :: rest => (time rest).bind zone
  | ' ' :: c :: rest => if c.isDigit then (time (c :: rest)).bind zone else some text
  | _ => some text

/-- Takes a date, a time or both. -/
def moment (text : List Char) : Option (List Char) :=
  match date text with
  | some rest => timeBehind rest
  | none => time text

end Rekindle.Toml
