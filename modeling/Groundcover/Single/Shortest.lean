import Groundcover.Single.Decimal

/-!
The shortest decimal that reads back as a given single. A decimal with `n` digits lies on the grid
of multiples of a power of ten; if any point of that grid reads back, so does one of the two points
next to the number. The first grid, counted from one digit up, with such a neighbour wins, the
nearer of two neighbours is taken, and an exact half goes to the larger one.
-/

namespace Groundcover

namespace Single

/-- The magnitude of a finite number in multiples of `10 ^ exponent`, as a ratio. -/
def ratioAt (x : Single) (exponent : Int) : Nat × Nat :=
  if 0 ≤ exponent then (x.units, unitsPerOne * Nat.pow 10 exponent.toNat)
  else (x.units * Nat.pow 10 (-exponent).toNat, unitsPerOne)

/-- Whether a decimal magnitude reads back as the magnitude of `x`. -/
def ReadsBack (x : Single) (d : Decimal) : Prop := d.rank = x.rank

instance (x : Single) (d : Decimal) : Decidable (x.ReadsBack d) :=
  inferInstanceAs (Decidable (_ = _))

/-- The neighbour of `x` on the grid of `10 ^ exponent` to write, if one of the two reads back. -/
def neighbour? (x : Single) (exponent : Int) : Option Decimal :=
  let (num, den) := x.ratioAt exponent
  let below : Decimal := ⟨num / den, exponent⟩
  let above : Decimal := ⟨num / den + 1, exponent⟩
  if x.ReadsBack below then
    if x.ReadsBack above ∧ (2 * (num / den) + 1) * den ≤ 2 * num then some above else some below
  else if x.ReadsBack above then some above
  else none

/--
The number of decimal places left of the point, negative for leading zeros right of it. No single
but zero is below 10^-60, so its first digit stays where it is when the rest is cut off.
-/
def decimalPlaces (x : Single) : Int :=
  ((Nat.toDigits 10 (x.units * Nat.pow 10 60 / unitsPerOne)).length : Int) - 60

/-- The first grid with at least `digits` digits that holds a neighbour. -/
def shortestFrom (x : Single) (digits : Nat) : Nat → Decimal
  | 0 => ⟨(x.ratioAt (x.decimalPlaces - digits)).1 / (x.ratioAt (x.decimalPlaces - digits)).2,
      x.decimalPlaces - digits⟩
  | more + 1 =>
    (x.neighbour? (x.decimalPlaces - digits)).getD (x.shortestFrom (digits + 1) more)

/-- The shortest decimal that reads back as the magnitude of `x`; nine digits always suffice. -/
def shortest (x : Single) : Decimal := x.shortestFrom 1 9

end Single

end Groundcover
