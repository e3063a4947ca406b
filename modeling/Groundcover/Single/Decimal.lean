import Groundcover.Single

/-!
Decimals and the singles nearest to them. `nearestRank` rounds a ratio of naturals, given in units
of 2^-149, to the nearest single, ties to the even significand and past the largest finite number
to infinity; `Single.ofDecimal` reads a decimal by it.
-/

namespace Groundcover

/-- The number `coefficient * 10 ^ exponent`. -/
structure Decimal where
  coefficient : Nat
  exponent : Int
  deriving DecidableEq, Repr

/-- A quotient rounded to the nearest natural, a half to the even neighbour. -/
def roundHalfEven (num den : Nat) : Nat :=
  let quotient := num / den
  let twice := 2 * (num % den)
  if twice < den then quotient
  else if den < twice then quotient + 1
  else quotient + quotient % 2

/--
The rank of the single nearest to `num / den` units of 2^-149. A significand that rounds up to the
next power of two carries into the exponent by itself, as the rank is the sum of both.
-/
def nearestRank (num den : Nat) : Nat :=
  let step := (num / den).log2 - 23
  min (step * Single.hiddenBit + roundHalfEven num (den * Nat.pow 2 step)) Single.topRank

namespace Decimal

/-- The decimal in units of 2^-149, as a ratio. -/
def ratio (d : Decimal) : Nat × Nat :=
  if 0 ≤ d.exponent then (d.coefficient * Nat.pow 10 d.exponent.toNat * Single.unitsPerOne, 1)
  else (d.coefficient * Single.unitsPerOne, Nat.pow 10 (-d.exponent).toNat)

/--
The rank of the nearest single. Far outside of the range of singles the answer is known without
forming the power of ten.
-/
def rank (d : Decimal) : Nat :=
  if d.coefficient = 0 then 0
  else if 100 < d.exponent then Single.topRank
  else if d.exponent < -((d.coefficient.log2 : Int) + 100) then 0
  else nearestRank d.ratio.1 d.ratio.2

end Decimal

/-- The single nearest to a decimal with a sign. -/
def Single.ofDecimal (negative : Bool) (d : Decimal) : Single := .ofRank negative d.rank

end Groundcover
