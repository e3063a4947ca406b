/-!
Canonical prefix codes. The lengths of the words determine the words: shorter words come before
longer ones, and words of one length are in the order of their symbols.
-/

namespace Groundcover

/-- Why a compressed text is not read on: it is cut off, it is broken, or what was
read is enough. -/
inductive Halt
  | ended
  | corrupt
  | full
  deriving DecidableEq, Repr

/-- How many words there are of each length from one on, and the symbols in the order of words. -/
structure PrefixCode where
  counts : List Nat
  symbols : Array Nat
  deriving DecidableEq

namespace PrefixCode

/-- The length of the longest words. -/
def maxLength : Nat := 15

/-- The symbols whose words have a length. -/
def symbolsOf (lengths : List Nat) (length : Nat) : List Nat :=
  (lengths.zipIdx.filter (·.1 = length)).map (·.2)

/-- The code in which the word of each symbol has the length given for it; zero is for no word. -/
def ofLengths (lengths : List Nat) : PrefixCode :=
  let groups := (List.range maxLength).map fun i => symbolsOf lengths (i + 1)
  ⟨groups.map List.length, groups.flatten.toArray⟩

/-- How many words of the greatest length begin with a word of the code. -/
def weight (c : PrefixCode) : Nat := c.counts.foldl (fun w count => 2 * w + count) 0

/-- Whether every sequence of bits, if it is long enough, begins with exactly one word. -/
def isComplete (c : PrefixCode) : Bool := c.weight == Nat.pow 2 maxLength

/-- Whether there is no word at all, or one of a single bit. -/
def isTrivial (c : PrefixCode) : Bool := c.weight == 0 || c.counts == 1 :: List.replicate 14 0

/--
The symbol whose word comes next. Of the words of the length read so far `place` is how many come
before the bits, and `before` is how many words are shorter.
-/
def symbolFrom (symbols : Array Nat) :
    Nat → Nat → List Nat → List Bool → Except Halt (Nat × List Bool)
  | _, _, [], _ => .error .corrupt
  | _, _, _ :: _, [] => .error .ended
  | place, before, count :: counts, bit :: bits =>
    let place := 2 * place + bit.toNat
    if place < count then
      match symbols[before + place]? with
      | some symbol => .ok (symbol, bits)
      | none => .error .corrupt
    else symbolFrom symbols (place - count) (before + count) counts bits

/-- The next symbol and the bits behind its word. -/
def symbol (c : PrefixCode) (bits : List Bool) : Except Halt (Nat × List Bool) :=
  symbolFrom c.symbols 0 0 c.counts bits

end PrefixCode

end Groundcover
