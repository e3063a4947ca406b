/-!
Single-precision numbers as their 32 bits. Two singles are equal as values of the type when they
agree bit for bit; `Equals` and `AtMost` are the comparisons of the arithmetic, in which the two
zeros are equal and a NaN compares with nothing.
-/

namespace Groundcover

/-- A binary32 number, held as its word. -/
structure Single where
  bits : UInt32
  deriving DecidableEq, Inhabited

namespace Single

/-- The bit of the sign, 2^31. -/
def signBit : Nat := 0x80000000

/-- The bit that significands of normal numbers hide, 2^23. -/
def hiddenBit : Nat := 0x800000

/-- The word below the sign bit. -/
def rank (x : Single) : Nat := x.bits.toNat % signBit

def isNegative (x : Single) : Bool := signBit ≤ x.bits.toNat

/-- The biased exponent, 0 for subnormal numbers and 255 for infinities and NaNs. -/
def exponent (x : Single) : Nat := x.rank / hiddenBit

def fraction (x : Single) : Nat := x.rank % hiddenBit

def isFinite (x : Single) : Bool := x.exponent < 255

def isNaN (x : Single) : Bool := 255 * hiddenBit < x.rank

/-- The integer significand; the hidden bit is missing exactly from subnormal numbers. -/
def significand (x : Single) : Nat :=
  if x.exponent = 0 then x.fraction else hiddenBit + x.fraction

/-- The magnitude of a finite number, counted in units of 2^-149. -/
def units (x : Single) : Nat := x.significand * Nat.pow 2 (x.exponent - 1)

/-- The number of units in one, 2^149. -/
def unitsPerOne : Nat := Nat.pow 2 149

/-- The position of a number that is no NaN on the line of all numbers. -/
def place (x : Single) : Int := if x.isNegative then -(x.rank : Int) else x.rank

/-- Equality of numbers: zeros of both signs agree and a NaN differs even from itself. -/
def Equals (x y : Single) : Prop :=
  x.isNaN = false ∧ y.isNaN = false ∧ x.place = y.place

/-- The order of numbers, false as soon as a NaN takes part. -/
def AtMost (x y : Single) : Prop :=
  x.isNaN = false ∧ y.isNaN = false ∧ x.place ≤ y.place

instance (x y : Single) : Decidable (x.Equals y) := inferInstanceAs (Decidable (_ ∧ _ ∧ _))

instance (x y : Single) : Decidable (x.AtMost y) := inferInstanceAs (Decidable (_ ∧ _ ∧ _))

/-- The number with the given sign and the given word below it. -/
def ofRank (negative : Bool) (rank : Nat) : Single :=
  ⟨.ofNat (if negative then signBit + rank else rank)⟩

/-- The rank of infinity. -/
def topRank : Nat := 255 * hiddenBit

def zero : Single := ⟨0⟩

def one : Single := ⟨0x3f800000⟩

/-- A finite number strictly above zero. -/
def IsPositive (x : Single) : Prop := x.isFinite = true ∧ x.isNegative = false ∧ 0 < x.rank

instance (x : Single) : Decidable x.IsPositive := inferInstanceAs (Decidable (_ ∧ _ ∧ _))

/-- The finite single that a small natural number is, for numbers of at most 24 bits. -/
def ofNat (n : Nat) : Single :=
  let step := n.log2
  if n = 0 then zero
  else ofRank false ((step + 127) * hiddenBit + (n * Nat.pow 2 (23 - step) - hiddenBit))

end Single

end Groundcover
