import Rekindle.Decimal.Shortest

/-!
# Writing a number

The digits of a number are its shortest decimal; a layout says where they are written
positionally and where with an exponent, and whether a whole number keeps a point.
-/

namespace Rekindle.Decimal

/-- The decisions of one way to write numbers. -/
structure Layout where
  /-- Whether a whole number is followed by `.0`. -/
  keepsPoint : Bool
  /-- Whether a number whose leading digit has this weight is written without an exponent. -/
  isPositional : Int → Bool

/-- Numbers as values show them: always positional, whole numbers without a point. -/
def Layout.value : Layout where
  keepsPoint := false
  isPositional _ := true

/-- Numbers as constants show them: a point always, and an exponent below `1e-4` and from `1e16`. -/
def Layout.constant : Layout where
  keepsPoint := true
  isPositional weight := -4 ≤ weight && weight < 16

/-- The decimal digits of a number, most significant first. -/
def digitChars (n : Nat) : List Char :=
  Nat.toDigits 10 n

def positional (layout : Layout) (digits : List Char) (exponent : Int) : String :=
  let point := (digits.length : Int) + exponent
  if 0 ≤ exponent then
    String.ofList (digits ++ List.replicate exponent.toNat '0') ++
      (if layout.keepsPoint then ".0" else "")
  else if 0 < point then
    String.ofList (digits.take point.toNat) ++ "." ++ String.ofList (digits.drop point.toNat)
  else
    "0." ++ String.ofList (List.replicate (-point).toNat '0' ++ digits)

/-- One digit before the point, the others after it, and the weight of the first. -/
def scientific (digits : List Char) (weight : Int) : String :=
  let fraction := digits.drop 1
  String.ofList (digits.take 1) ++
    (if fraction = [] then "" else "." ++ String.ofList fraction) ++ "e" ++ toString weight

/-- The digits of a decimal without the zeros at its end, and the weight of the last one. -/
def significant (decimal : Scaled) : List Char × Int :=
  let digits := digitChars decimal.digits
  let zeros := (digits.reverse.takeWhile (· = '0')).length
  (digits.take (digits.length - zeros), decimal.exponent + zeros)

def Layout.magnitude (layout : Layout) (x : Binary64) : String :=
  if x.isZero then positional layout ['0'] 0
  else
    let (digits, exponent) := significant (shortest x.mantissa x.exponent)
    let weight := (digits.length : Int) + exponent - 1
    if layout.isPositional weight then positional layout digits exponent
    else scientific digits weight

def Layout.text (layout : Layout) (x : Binary64) : String :=
  if x.isNaN then "NaN"
  else
    (if x.isNegative then "-" else "") ++
      (if x.isInfinite then "inf" else layout.magnitude x)

end Rekindle.Decimal
