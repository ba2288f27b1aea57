import ClusterView.Number.Binary64

/-!
# The shortest decimal of a binary fraction

Many decimal fractions are rounded to the same binary one. `Binary64.shortest` is the one with the
fewest digits among them, and of those the nearest. The multiples of a power of ten are a grid: the
coarsest grid with a point that is rounded to the fraction is taken, and on it only the neighbours
of the fraction can be such points.
-/

namespace ClusterView

/-- The decimal fraction `digits · 10 ^ exponent`. -/
structure Decimal where
  digits : Nat
  exponent : Int
deriving DecidableEq

namespace Binary64

/-- The least fraction that is rounded to a fraction, in quarters of its last bit. Below a power of
two the fractions lie closer. -/
def lowerQuarters (x : Binary64) : Nat :=
  if x.significand = Nat.pow 2 (precision - 1) && x.exponent ≠ minExponent then
    4 * x.significand - 1
  else 4 * x.significand - 2

/-- The greatest fraction that is rounded to a fraction, in quarters of its last bit. -/
def upperQuarters (x : Binary64) : Nat := 4 * x.significand + 2

/-- A quarter of the last bit of a fraction as a multiple of `10 ^ grid`, by numerator and
denominator. -/
def quarterOnGrid (x : Binary64) (grid : Int) : Nat × Nat :=
  let e := x.exponent - 2
  (Nat.pow 2 e.toNat * Nat.pow 10 (-grid).toNat, Nat.pow 2 (-e).toNat * Nat.pow 10 grid.toNat)

/-- Whether `c · 10 ^ grid` is rounded to a fraction. The ends of the interval are where the
significand is even, as a half goes there. -/
def isRoundedFrom (x : Binary64) (grid : Int) (c : Nat) : Bool :=
  let (n, d) := x.quarterOnGrid grid
  let (lower, value, upper) := (x.lowerQuarters * n, c * d, x.upperQuarters * n)
  if x.significand % 2 = 0 then lower ≤ value && value ≤ upper else lower < value && value < upper

/-- The multiple of `10 ^ grid` nearest to a fraction, of its two neighbours among these that are
rounded to it. -/
def onGrid? (x : Binary64) (grid : Int) : Option Decimal :=
  let (n, d) := x.quarterOnGrid grid
  let c := 4 * x.significand * n / d
  match x.isRoundedFrom grid c, x.isRoundedFrom grid (c + 1) with
  | true, true => some ⟨roundDiv (4 * x.significand * n) d, grid⟩
  | true, false => some ⟨c, grid⟩
  | false, true => some ⟨c + 1, grid⟩
  | false, false => none

/-- A power of ten above a fraction. -/
def coarsestGrid (x : Binary64) : Int :=
  (x.significand.log2 + 1 + x.exponent) * 30103 / 100000 + 2

/-- The decimal fraction with the fewest digits that is rounded to a fraction, and of these the
nearest. Seventeen digits always suffice. -/
def shortest (x : Binary64) : Decimal :=
  ((List.range 24).findSome? fun (i : Nat) => x.onGrid? (x.coarsestGrid - i)).getD ⟨0, 0⟩

end Binary64

end ClusterView
