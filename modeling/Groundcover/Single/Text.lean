import Groundcover.Single.Shortest

/-!
The text of a single. `Single.text` is positional, without an exponent: the shortest decimal that
reads back, no point in a whole number. `Single.literal` is the form that shader source takes, which
always has a point. `Single.ofText?` reads decimals with an optional exponent, and the names of the
infinities and of NaN in any case.
-/

namespace Groundcover

namespace Decimal

/-- The digits of the coefficient without the zeros it ends in, and the exponent
that goes with it. -/
def trimmed (d : Decimal) : List Char × Int :=
  let digits := Nat.toDigits 10 d.coefficient
  let kept := (digits.reverse.dropWhile (· == '0')).reverse
  (kept, d.exponent + (digits.length - kept.length : Nat))

/-- Positional digits: zeros fill the distance to the point on either side. -/
def positional (d : Decimal) : List Char :=
  let (digits, exponent) := d.trimmed
  if 0 ≤ exponent then digits ++ List.replicate exponent.toNat '0'
  else
    let places := (-exponent).toNat
    if places < digits.length then
      digits.take (digits.length - places) ++ '.' :: digits.drop (digits.length - places)
    else '0' :: '.' :: List.replicate (places - digits.length) '0' ++ digits

end Decimal

namespace Single

/-- The text of a number without its sign. -/
def magnitudeText (x : Single) : List Char :=
  if x.isNaN then ['N', 'a', 'N']
  else if x.rank = topRank then ['i', 'n', 'f']
  else if x.rank = 0 then ['0']
  else x.shortest.positional

/-- The shortest positional text; a NaN has no sign. -/
def text (x : Single) : String :=
  .ofList (if x.isNegative && !x.isNaN then '-' :: x.magnitudeText else x.magnitudeText)

/-- The text with a point: a number written without one gets `.0`. -/
def literal (x : Single) : String :=
  if x.text.toList.contains '.' then x.text else x.text ++ ".0"

end Single

/-- The value of a run of decimal digits. -/
def digitsValue (digits : List Char) : Nat :=
  digits.foldl (fun value c => value * 10 + (c.toNat - '0'.toNat)) 0

/-- The sign in front of a number, and what follows it. -/
def splitSign : List Char → Bool × List Char
  | '-' :: rest => (true, rest)
  | '+' :: rest => (false, rest)
  | rest => (false, rest)

/-- An exponent mark with its digits, or nothing at all. -/
def exponentOf? : List Char → Option Int
  | [] => some 0
  | c :: rest =>
    let (negative, digits) := splitSign rest
    if (c == 'e' || c == 'E') && !digits.isEmpty && digits.all Char.isDigit then
      some (if negative then -(digitsValue digits : Int) else digitsValue digits)
    else none

/-- A decimal without a sign: digits around an optional point, then an optional exponent. -/
def Decimal.ofText? (text : List Char) : Option Decimal :=
  let whole := text.takeWhile Char.isDigit
  let rest := text.dropWhile Char.isDigit
  let (places, rest) := match rest with
    | '.' :: after => (after.takeWhile Char.isDigit, after.dropWhile Char.isDigit)
    | _ => ([], rest)
  if whole.isEmpty && places.isEmpty then none
  else (exponentOf? rest).map fun exponent =>
    ⟨digitsValue (whole ++ places), exponent - places.length⟩

namespace Single

def infinity (negative : Bool) : Single := .ofRank negative topRank

/-- The NaN that reading the word gives. -/
def quietNaN (negative : Bool) : Single := .ofRank negative 0x7fc00000

/-- Reads a number, rounding it to the nearest single. -/
def ofText? (text : List Char) : Option Single :=
  let (negative, magnitude) := splitSign text
  let word := String.ofList (magnitude.map Char.toLower)
  if word = "inf" ∨ word = "infinity" then some (infinity negative)
  else if word = "nan" then some (quietNaN negative)
  else (Decimal.ofText? magnitude).map (ofDecimal negative)

end Single

end Groundcover
