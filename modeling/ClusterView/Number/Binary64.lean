/-!
# Fractions of 64 bits

A `Binary64` is a binary fraction with 53 significant bits, the form in which fractions are kept.
`Binary64.ofDecimal?` rounds a decimal fraction to the nearest one, with exact integer arithmetic
throughout: a half goes to the even neighbour, what is too small becomes zero, and what is too large
is none.
-/

namespace ClusterView

/-! ## Rounding -/

/-- The integer nearest to a quotient; a half goes to the even neighbour. -/
def roundDiv (n d : Nat) : Nat :=
  let q := n / d
  let twice := 2 * (n % d)
  if twice < d || twice = d && q % 2 = 0 then q else q + 1

/-- The exponent of the greatest power of two that is at most a positive quotient. -/
def log2Div (n d : Nat) : Int :=
  let e : Int := (n.log2 : Int) - d.log2
  if d * Nat.pow 2 e.toNat ≤ n * Nat.pow 2 (-e).toNat then e else e - 1

/-! ## Fractions -/

/-- The fraction `significand · 2 ^ exponent` with a sign, which zero has too. The significand has
53 bits, or fewer where the exponent is the least one. -/
structure Binary64 where
  negative : Bool
  significand : Nat
  exponent : Int
deriving DecidableEq, Inhabited

namespace Binary64

/-- The number of bits of a significand. -/
def precision : Nat := 53

/-- The least exponent. -/
def minExponent : Int := -1074

/-- The greatest exponent. -/
def maxExponent : Int := 971

/-- Zero with a sign. -/
def zero (negative : Bool) : Binary64 := ⟨negative, 0, minExponent⟩

/-- Whether a fraction is zero, with whatever sign. -/
def isZero (x : Binary64) : Bool := x.significand = 0

/-- Whether two fractions have the same value; the sign of zero does not count. -/
def same (x y : Binary64) : Bool := x == y || x.isZero && y.isZero

/-- The fraction nearest to a positive quotient, unless that is too large. -/
def ofQuotient? (negative : Bool) (n d : Nat) : Option Binary64 :=
  let e := max (log2Div n d - (precision - 1)) minExponent
  let m := roundDiv (n * Nat.pow 2 (-e).toNat) (d * Nat.pow 2 e.toNat)
  let (m, e) := if m = Nat.pow 2 precision then (Nat.pow 2 (precision - 1), e + 1) else (m, e)
  if e ≤ maxExponent then some ⟨negative, m, e⟩ else none

/-- The exponent of a power of ten that is too large, and so large that its inverse is rounded to
zero. -/
def decimalRange : Int := 330

/-- The fraction nearest to `n · 10 ^ e`, unless that is too large. -/
def ofDecimal? (negative : Bool) (n : Nat) (e : Int) : Option Binary64 :=
  let magnitude := n.repr.length + e
  if n = 0 || magnitude < -decimalRange then some (zero negative)
  else if decimalRange < magnitude then none
  else ofQuotient? negative (n * Nat.pow 10 e.toNat) (Nat.pow 10 (-e).toNat)

end Binary64

end ClusterView
