import Rekindle.Binary64

/-!
# The shortest decimal of a number

Among the decimals that read back as a given double, the ones on the coarsest decimal grid have
the fewest digits; of those the nearest to the number is chosen. All comparisons are between
natural numbers: the interval that rounds to `m * 2 ^ q` runs from half a unit below to half a
unit above, and only a quarter of a unit below when the next smaller number is in the binade
underneath. Its ends belong to it when `m` is even.
-/

namespace Rekindle.Decimal

/-- The decimal `digits * 10 ^ exponent`. -/
structure Scaled where
  digits : Nat
  exponent : Int
deriving DecidableEq, Repr, Inhabited

/-- The scale that turns a comparison of `c * 10 ^ k` with `x * 2 ^ u` into one of `c` times the
first with `x` times the second. -/
def scales (k u : Int) : Nat × Nat :=
  (Nat.pow 10 k.toNat * Nat.pow 2 (-u).toNat, Nat.pow 2 u.toNat * Nat.pow 10 (-k).toNat)

/-- Whether `c * 10 ^ k` rounds to `m * 2 ^ q`. -/
def readsBack (m : Nat) (q k : Int) (c : Nat) : Bool :=
  let (left, right) := scales k (q - 2)
  let low := (4 * m - if m = Binary64.fractionRange then 1 else 2) * right
  let high := (4 * m + 2) * right
  if m % 2 = 0 then low ≤ c * left && c * left ≤ high else low < c * left && c * left < high

/-- The point nearest to `m * 2 ^ q` on the grid of multiples of `10 ^ k`, if it reads back. -/
def onGrid (m : Nat) (q k : Int) : Option Nat :=
  let (left, right) := scales k (q - 2)
  let below := 4 * m * right / left
  let distanceBelow := 4 * m * right - below * left
  let distanceAbove := (below + 1) * left - 4 * m * right
  match readsBack m q k below, readsBack m q k (below + 1) with
  | true, true => some (if distanceBelow < distanceAbove then below else below + 1)
  | true, false => some below
  | false, true => some (below + 1)
  | false, false => none

/-- The grids that matter for doubles, coarsest first. -/
def grids : List Int :=
  (List.range 660).map fun (i : Nat) => 310 - (i : Int)

/-- The shortest decimal that reads back as `m * 2 ^ q`. -/
def shortest (m : Nat) (q : Int) : Scaled :=
  (grids.findSome? fun k => (onGrid m q k).map fun c => ⟨c, k⟩).getD ⟨0, 0⟩

theorem readsBack_of_onGrid {m : Nat} {q k : Int} {c : Nat} (chosen : onGrid m q k = some c) :
    readsBack m q k c = true := by
  simp only [onGrid] at chosen
  split at chosen <;> rename_i lower upper
  · split at chosen <;> cases chosen <;> assumption
  · cases chosen; exact lower
  · cases chosen; exact upper
  · cases chosen

end Rekindle.Decimal
