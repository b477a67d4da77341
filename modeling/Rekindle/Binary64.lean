/-!
# Double precision numbers

A number is kept as its sixty-four bits, so that every pattern, the payload of a NaN included,
survives storage unchanged. Comparison is numeric: a NaN equals nothing and the two zeros are
equal.
-/

namespace Rekindle

/-- The bit pattern of an IEEE 754 double. -/
structure Binary64 where
  bits : UInt64
deriving DecidableEq, Repr, Inhabited

namespace Binary64

/-- The number zero with a plus sign. -/
def zero : Binary64 := ⟨0⟩

/-- What the bits of the fraction count up to: two to the fifty-second. -/
def fractionRange : Nat := 0x10000000000000

def isNegative (x : Binary64) : Bool := 0x8000000000000000 ≤ x.bits

def biasedExponent (x : Binary64) : Nat := x.bits.toNat / fractionRange % 2048

def fraction (x : Binary64) : Nat := x.bits.toNat % fractionRange

def isNaN (x : Binary64) : Bool := x.biasedExponent == 2047 && x.fraction != 0

def isInfinite (x : Binary64) : Bool := x.biasedExponent == 2047 && x.fraction == 0

/-- Whether the pattern is one of the two zeros. -/
def isZero (x : Binary64) : Bool := x.biasedExponent == 0 && x.fraction == 0

/-- The integer `m` of the magnitude `m * 2 ^ q` of a finite number. -/
def mantissa (x : Binary64) : Nat :=
  if x.biasedExponent = 0 then x.fraction else fractionRange + x.fraction

/-- The exponent `q` of the magnitude `m * 2 ^ q` of a finite number. -/
def exponent (x : Binary64) : Int :=
  (if x.biasedExponent = 0 then 1 else (x.biasedExponent : Int)) - 1075

/-- Numeric equality. -/
def same (x y : Binary64) : Bool :=
  !x.isNaN && !y.isNaN && (x.bits == y.bits || (x.isZero && y.isZero))

def arithmetic (operation : Float → Float → Float) (x y : Binary64) : Binary64 :=
  ⟨(operation (Float.ofBits x.bits) (Float.ofBits y.bits)).toBits⟩

/-- The sum, rounded to the nearest number. -/
def add : Binary64 → Binary64 → Binary64 := arithmetic (· + ·)

/-- The difference, rounded to the nearest number. -/
def sub : Binary64 → Binary64 → Binary64 := arithmetic (· - ·)

/-- The product, rounded to the nearest number. -/
def mul : Binary64 → Binary64 → Binary64 := arithmetic (· * ·)

theorem same_comm (x y : Binary64) : x.same y = y.same x := by
  simp only [same]
  rw [show (x.bits == y.bits) = (y.bits == x.bits) from BEq.comm]
  cases x.isNaN <;> cases y.isNaN <;> cases x.isZero <;> cases y.isZero <;> simp

theorem same_self_iff (x : Binary64) : x.same x = true ↔ x.isNaN = false := by
  simp [same]

end Binary64

end Rekindle
