import Groundcover.Image.Jpeg.Marker
import Groundcover.Image.PrefixCode

/-!
Tables of JPEG files: factors that scale the samples, and prefix codes for the bits of scans.
-/

namespace Groundcover.Jpeg

open ImageFormat

/-- How many tables of a kind there may be. -/
def maxTables : Nat := 4

/-- The positions of the factors in a segment. Each table has 64 entries of one byte or of two. -/
def quantizationTables : Nat → List UInt8 → Except ImageError (List Nat)
  | _, [] => .ok []
  | 0, _ :: _ => .error exhausted
  | fuel + 1, info :: rest =>
    let precision := info.toNat / 16
    let position := info.toNat % 16
    if 1 < precision ∨ maxTables ≤ position then .error (malformed "Bad quantization table")
    else
      match splitOff? (64 * (precision + 1)) rest with
      | none => .error (malformed "Invalid QT table bytes")
      | some (_, rest) => do return position :: (← quantizationTables fuel rest)

/-- What a code is for: the sum of the samples of a block, or how they vary. -/
inductive CodeKind
  | sum
  | variation
  deriving DecidableEq, Repr

/--
Whether there is a code with so many words of each length. Of the sequences of bits of the length
before, `used` many are words or begin with one; the last of all sequences has to stay free.
-/
def haveWords (used total : Nat) : List Nat → Bool
  | [] => true
  | count :: counts =>
    2 * used + count < 2 * total && haveWords (2 * used + count) (2 * total) counts

/-- A code with its kind and its position. -/
structure CodeTable where
  kind : CodeKind
  position : Nat
  code : PrefixCode

/-- The codes in a segment. -/
def codeTables : Nat → List UInt8 → Except ImageError (List CodeTable)
  | _, [] => .ok []
  | 0, _ :: _ => .error exhausted
  | fuel + 1, info :: rest =>
    let position := info.toNat % 16
    match splitOff? 16 rest with
    | none => .error (malformed "Bogus Huffman table definition")
    | some (counts, rest) =>
      let counts := counts.map UInt8.toNat
      let total := counts.foldl (· + ·) 0
      if 32 ≤ info ∨ maxTables ≤ position ∨ 256 < total then
        .error (malformed "Invalid DHT position")
      else
        match splitOff? total rest with
        | none => .error (malformed "Excessive Huffman table")
        | some (symbols, rest) =>
          let kind := if info < 16 then CodeKind.sum else .variation
          if !haveWords 0 1 counts || kind == .sum && symbols.any (15 < ·) then
            .error (malformed "Bad Huffman Table")
          else do
            let code := ⟨counts, (symbols.map UInt8.toNat).toArray⟩
            return ⟨kind, position, code⟩ :: (← codeTables fuel rest)

/-! Codes for files that state none -/

/-- The words of each length, for sums and for variations, of brightness and of colour. -/
def usualCounts : CodeKind → Nat → List Nat
  | .sum, 0 => [0, 1, 5, 1, 1, 1, 1, 1, 1, 0, 0, 0, 0, 0, 0, 0]
  | .sum, _ => [0, 3, 1, 1, 1, 1, 1, 1, 1, 1, 1, 0, 0, 0, 0, 0]
  | .variation, 0 => [0, 2, 1, 3, 3, 2, 4, 3, 5, 5, 4, 4, 0, 0, 1, 125]
  | .variation, _ => [0, 2, 1, 2, 4, 4, 3, 4, 7, 5, 4, 4, 0, 1, 2, 119]

/-- The symbols for variations of brightness. -/
def brightnessSymbols : List Nat :=
  [0x01, 0x02, 0x03, 0x00, 0x04, 0x11, 0x05, 0x12, 0x21, 0x31, 0x41, 0x06, 0x13, 0x51, 0x61, 0x07,
   0x22, 0x71, 0x14, 0x32, 0x81, 0x91, 0xa1, 0x08, 0x23, 0x42, 0xb1, 0xc1, 0x15, 0x52, 0xd1, 0xf0,
   0x24, 0x33, 0x62, 0x72, 0x82, 0x09, 0x0a, 0x16, 0x17, 0x18, 0x19, 0x1a, 0x25, 0x26, 0x27, 0x28,
   0x29, 0x2a, 0x34, 0x35, 0x36, 0x37, 0x38, 0x39, 0x3a, 0x43, 0x44, 0x45, 0x46, 0x47, 0x48, 0x49,
   0x4a, 0x53, 0x54, 0x55, 0x56, 0x57, 0x58, 0x59, 0x5a, 0x63, 0x64, 0x65, 0x66, 0x67, 0x68, 0x69,
   0x6a, 0x73, 0x74, 0x75, 0x76, 0x77, 0x78, 0x79, 0x7a, 0x83, 0x84, 0x85, 0x86, 0x87, 0x88, 0x89,
   0x8a, 0x92, 0x93, 0x94, 0x95, 0x96, 0x97, 0x98, 0x99, 0x9a, 0xa2, 0xa3, 0xa4, 0xa5, 0xa6, 0xa7,
   0xa8, 0xa9, 0xaa, 0xb2, 0xb3, 0xb4, 0xb5, 0xb6, 0xb7, 0xb8, 0xb9, 0xba, 0xc2, 0xc3, 0xc4, 0xc5,
   0xc6, 0xc7, 0xc8, 0xc9, 0xca, 0xd2, 0xd3, 0xd4, 0xd5, 0xd6, 0xd7, 0xd8, 0xd9, 0xda, 0xe1, 0xe2,
   0xe3, 0xe4, 0xe5, 0xe6, 0xe7, 0xe8, 0xe9, 0xea, 0xf1, 0xf2, 0xf3, 0xf4, 0xf5, 0xf6, 0xf7, 0xf8,
   0xf9, 0xfa]

/-- The symbols for variations of colour. -/
def colourSymbols : List Nat :=
  [0x00, 0x01, 0x02, 0x03, 0x11, 0x04, 0x05, 0x21, 0x31, 0x06, 0x12, 0x41, 0x51, 0x07, 0x61, 0x71,
   0x13, 0x22, 0x32, 0x81, 0x08, 0x14, 0x42, 0x91, 0xa1, 0xb1, 0xc1, 0x09, 0x23, 0x33, 0x52, 0xf0,
   0x15, 0x62, 0x72, 0xd1, 0x0a, 0x16, 0x24, 0x34, 0xe1, 0x25, 0xf1, 0x17, 0x18, 0x19, 0x1a, 0x26,
   0x27, 0x28, 0x29, 0x2a, 0x35, 0x36, 0x37, 0x38, 0x39, 0x3a, 0x43, 0x44, 0x45, 0x46, 0x47, 0x48,
   0x49, 0x4a, 0x53, 0x54, 0x55, 0x56, 0x57, 0x58, 0x59, 0x5a, 0x63, 0x64, 0x65, 0x66, 0x67, 0x68,
   0x69, 0x6a, 0x73, 0x74, 0x75, 0x76, 0x77, 0x78, 0x79, 0x7a, 0x82, 0x83, 0x84, 0x85, 0x86, 0x87,
   0x88, 0x89, 0x8a, 0x92, 0x93, 0x94, 0x95, 0x96, 0x97, 0x98, 0x99, 0x9a, 0xa2, 0xa3, 0xa4, 0xa5,
   0xa6, 0xa7, 0xa8, 0xa9, 0xaa, 0xb2, 0xb3, 0xb4, 0xb5, 0xb6, 0xb7, 0xb8, 0xb9, 0xba, 0xc2, 0xc3,
   0xc4, 0xc5, 0xc6, 0xc7, 0xc8, 0xc9, 0xca, 0xd2, 0xd3, 0xd4, 0xd5, 0xd6, 0xd7, 0xd8, 0xd9, 0xda,
   0xe2, 0xe3, 0xe4, 0xe5, 0xe6, 0xe7, 0xe8, 0xe9, 0xea, 0xf2, 0xf3, 0xf4, 0xf5, 0xf6, 0xf7, 0xf8,
   0xf9, 0xfa]

def usualSymbols : CodeKind → Nat → List Nat
  | .sum, _ => List.range 12
  | .variation, 0 => brightnessSymbols
  | .variation, _ => colourSymbols

/-- The code that stands in at a position. There is one for brightness and one for colour. -/
def usualCode? (kind : CodeKind) (position : Nat) : Option PrefixCode :=
  if position < 2 then some ⟨usualCounts kind position, (usualSymbols kind position).toArray⟩
  else none

end Groundcover.Jpeg
