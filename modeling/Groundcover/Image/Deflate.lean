import Groundcover.Image.PrefixCode

/-!
Compressed bytes (DEFLATE in a zlib frame). Bytes are read from their lowest bit. A text is a row of
blocks, which hold bytes as they are or symbols of two prefix codes: bytes, and copies of what came
before. What was read before a text ends or breaks is kept. Reading stops at a limit.
-/

namespace Groundcover.Deflate

/-- Bytes as bits. -/
def bitsOf (bytes : List UInt8) : List Bool :=
  bytes.flatMap fun b => (List.range 8).map b.toNat.testBit

/-- A number of so many bits, the lowest first. -/
def number : Nat → List Bool → Except Halt (Nat × List Bool)
  | 0, bits => .ok (0, bits)
  | _ + 1, [] => .error .ended
  | count + 1, bit :: bits => (number count bits).map fun (n, rest) => (bit.toNat + 2 * n, rest)

/-- The bits from the next full byte on. All texts are a whole number of bytes. -/
def aligned (bits : List Bool) : List Bool := bits.drop (bits.length % 8)

/-! Symbols -/

/-- The least length of a copy and how many bits add to it, by symbol from 257 on. -/
def copyLengths : List (Nat × Nat) :=
  [(3, 0), (4, 0), (5, 0), (6, 0), (7, 0), (8, 0), (9, 0), (10, 0), (11, 1), (13, 1), (15, 1),
   (17, 1), (19, 2), (23, 2), (27, 2), (31, 2), (35, 3), (43, 3), (51, 3), (59, 3), (67, 4),
   (83, 4), (99, 4), (115, 4), (131, 5), (163, 5), (195, 5), (227, 5), (258, 0)]

/-- The least distance of a copy and how many bits add to it, by symbol. -/
def copyDistances : List (Nat × Nat) :=
  [(1, 0), (2, 0), (3, 0), (4, 0), (5, 1), (7, 1), (9, 2), (13, 2), (17, 3), (25, 3), (33, 4),
   (49, 4), (65, 5), (97, 5), (129, 6), (193, 6), (257, 7), (385, 7), (513, 8), (769, 8),
   (1025, 9), (1537, 9), (2049, 10), (3073, 10), (4097, 11), (6145, 11), (8193, 12), (12289, 12),
   (16385, 13), (24577, 13)]

/-- An amount that a symbol stands for, together with the bits behind it. -/
def amount (table : List (Nat × Nat)) (symbol : Nat) (bits : List Bool) :
    Except Halt (Nat × List Bool) :=
  match table[symbol]? with
  | none => .error .corrupt
  | some (least, extra) => (number extra bits).map fun (n, rest) => (least + n, rest)

/-- What symbols stand for. -/
inductive Item
  | byte (b : UInt8)
  | copy (length distance : Nat)
  | stop
  deriving DecidableEq, Repr

/-- The codes of a block: one of bytes and lengths, one of distances. -/
structure Codes where
  main : PrefixCode
  distance : PrefixCode

def endSymbol : Nat := 256

def item (c : Codes) (bits : List Bool) : Except Halt (Item × List Bool) := do
  let (symbol, bits) ← c.main.symbol bits
  if symbol < endSymbol then return (.byte (.ofNat symbol), bits)
  else if symbol = endSymbol then return (.stop, bits)
  else
    let (length, bits) ← amount copyLengths (symbol - endSymbol - 1) bits
    let (symbol, bits) ← c.distance.symbol bits
    let (distance, bits) ← amount copyDistances symbol bits
    return (.copy length distance, bits)

/-! Output -/

/-- What has been read, and why reading stopped or what is left. -/
structure Inflated where
  output : Array UInt8
  ending : Except Halt (List Bool)

/-- Copies bytes one by one, so that a copy may reach into itself. -/
def copied (distance : Nat) : Nat → Array UInt8 → Array UInt8
  | 0, output => output
  | length + 1, output =>
    copied distance length (output.push (output.getD (output.size - distance) 0))

/-- Items up to the end of a block or to the limit. Each of them takes a bit at least. -/
def items (c : Codes) (limit : Nat) : Nat → Array UInt8 → List Bool → Inflated
  | 0, output, _ => ⟨output, .error .ended⟩
  | fuel + 1, output, bits =>
    if limit ≤ output.size then ⟨output, .error .full⟩
    else
      match item c bits with
      | .error e => ⟨output, .error e⟩
      | .ok (.byte b, bits) => items c limit fuel (output.push b) bits
      | .ok (.stop, bits) => ⟨output, .ok bits⟩
      | .ok (.copy length distance, bits) =>
        if output.size < distance then ⟨output, .error .corrupt⟩
        else items c limit fuel (copied distance (min length (limit - output.size)) output) bits

/-- Bytes as they are, up to the limit. -/
def plain (limit : Nat) : Nat → Array UInt8 → List Bool → Inflated
  | 0, output, bits => ⟨output, .ok bits⟩
  | count + 1, output, bits =>
    if limit ≤ output.size then ⟨output, .error .full⟩
    else
      match number 8 bits with
      | .error e => ⟨output, .error e⟩
      | .ok (b, bits) => plain limit count (output.push (.ofNat b)) bits

/-! Blocks -/

/-- The codes of a block that states none. -/
def fixedCodes : Codes where
  main := .ofLengths
    (List.replicate 144 8 ++ List.replicate 112 9 ++ List.replicate 24 7 ++ List.replicate 8 8)
  distance := .ofLengths (List.replicate 32 5)

/-- The order in which the lengths for the code of lengths are given. -/
def lengthOrder : List Nat := [16, 17, 18, 0, 8, 7, 9, 6, 10, 5, 11, 4, 12, 3, 13, 2, 14, 1, 15]

/-- Numbers of three bits each. -/
def triples : Nat → List Bool → Except Halt (List Nat × List Bool)
  | 0, bits => .ok ([], bits)
  | count + 1, bits => do
    let (n, bits) ← number 3 bits
    let (more, bits) ← triples count bits
    return (n :: more, bits)

/-- The length that a run repeats, how often it does so at least, and the bits that add to that. -/
def run? (symbol : Nat) (last : Option Nat) : Option (Nat × Nat × Nat) :=
  match symbol with
  | 16 => last.map fun length => (length, 3, 2)
  | 17 => some (0, 3, 3)
  | 18 => some (0, 11, 7)
  | length => some (length, 1, 0)

/-- Lengths of words, the last first, until there are so many. Each symbol adds one at least. -/
def wordLengths (c : PrefixCode) (total : Nat) :
    Nat → List Nat → List Bool → Except Halt (List Nat × List Bool)
  | 0, _, _ => .error .corrupt
  | fuel + 1, found, bits =>
    if found.length = total then .ok (found, bits)
    else if total < found.length then .error .corrupt
    else do
      let (symbol, bits) ← c.symbol bits
      match run? symbol found.head? with
      | none => .error .corrupt
      | some (length, least, extra) =>
        let (more, bits) ← number extra bits
        wordLengths c total fuel (List.replicate (least + more) length ++ found) bits

/-- The codes that a block states. Few symbols may be announced, and the end has to have a word. -/
def statedCodes (bits : List Bool) : Except Halt (Codes × List Bool) := do
  let (extraMain, bits) ← number 5 bits
  let (extraDistances, bits) ← number 5 bits
  let (extraLengths, bits) ← number 4 bits
  if 286 < 257 + extraMain || 30 < 1 + extraDistances then throw .corrupt
  let (given, bits) ← triples (4 + extraLengths) bits
  let lengths := (List.range 19).map fun symbol => given.getD (lengthOrder.idxOf symbol) 0
  let code := PrefixCode.ofLengths lengths
  unless code.isComplete do throw .corrupt
  let total := 257 + extraMain + (1 + extraDistances)
  let (reversed, bits) ← wordLengths code total (total + 1) [] bits
  let (mainLengths, distanceLengths) := reversed.reverse.splitAt (257 + extraMain)
  let main := PrefixCode.ofLengths mainLengths
  let distance := PrefixCode.ofLengths distanceLengths
  unless mainLengths.getD endSymbol 0 != 0 && main.isComplete do throw .corrupt
  unless distance.isComplete || distance.isTrivial do throw .corrupt
  return (⟨main, distance⟩, bits)

/-- The length of a plain block, which is given a second time with every bit inverted. -/
def plainLength (bits : List Bool) : Except Halt (Nat × List Bool) := do
  let (length, bits) ← number 16 (aligned bits)
  let (inverted, bits) ← number 16 bits
  if length + inverted = 0xffff then return (length, bits) else throw .corrupt

/-- A block of one of three kinds. -/
def block (limit kind : Nat) (output : Array UInt8) (bits : List Bool) : Inflated :=
  match kind with
  | 0 =>
    match plainLength bits with
    | .error e => ⟨output, .error e⟩
    | .ok (length, bits) => plain limit length output bits
  | 1 => items fixedCodes limit (bits.length + 1) output bits
  | 2 =>
    match statedCodes bits with
    | .error e => ⟨output, .error e⟩
    | .ok (codes, bits) => items codes limit (bits.length + 1) output bits
  | _ => ⟨output, .error .corrupt⟩

/-- The length in bits of the shortest block, which holds nothing. -/
def leastBlock : Nat := 10

/-- Whether a block is the last one, and its kind. No block begins where none has room. -/
def blockStart (bits : List Bool) : Except Halt (Bool × Nat × List Bool) := do
  if (bits.take leastBlock).length < leastBlock then throw .ended
  let (last, bits) ← number 1 bits
  let (kind, bits) ← number 2 bits
  return (last == 1, kind, bits)

/-- Blocks up to the one that is marked as the last. Each of them takes three bits at least. -/
def blocks (limit : Nat) : Nat → Array UInt8 → List Bool → Inflated
  | 0, output, _ => ⟨output, .error .ended⟩
  | fuel + 1, output, bits =>
    match blockStart bits with
    | .error e => ⟨output, .error e⟩
    | .ok (last, kind, bits) =>
      let result := block limit kind output bits
      match result.ending with
      | .error _ => result
      | .ok bits => if last then result else blocks limit fuel result.output bits

/-- Whether a frame begins with these bytes: method, window, no preset text, and a check on both. -/
def isFrameStart (method flags : UInt8) : Bool :=
  method.toNat % 16 == 8 && method.toNat / 16 ≤ 7 && !flags.toNat.testBit 5
    && (method.toNat * 256 + flags.toNat) % 31 == 0

/-- The length in bits of the checksum behind the blocks, which is not compared. -/
def checksumLength : Nat := 32

/-- What is missing behind the limit does no harm. -/
def Inflated.settled (limit : Nat) (r : Inflated) : Inflated :=
  match r.ending with
  | .error .ended => if limit ≤ r.output.size then ⟨r.output, .error .full⟩ else r
  | _ => r

/-- The bytes in a frame, at most so many. What follows the frame does not matter. -/
def inflate (limit : Nat) (bytes : List UInt8) : Inflated :=
  match bytes with
  | method :: flags :: rest =>
    if !isFrameStart method flags then ⟨#[], .error .corrupt⟩
    else
      let result := blocks limit (8 * rest.length + 1) #[] (bitsOf rest)
      match result.ending with
      | .error _ => result.settled limit
      | .ok bits =>
        if (aligned bits).length < checksumLength then
          Inflated.settled limit ⟨result.output, .error .ended⟩
        else result
  | _ => ⟨#[], .error .ended⟩

/-- The bytes in a frame that comes in pieces. Pieces behind the one that settles
it do not matter. -/
def inflatePieces (limit : Nat) (bytes : List UInt8) : List (List UInt8) → Inflated
  | [] => inflate limit bytes
  | piece :: pieces =>
    let result := inflate limit (bytes ++ piece)
    match result.ending, pieces with
    | .error .ended, _ :: _ => inflatePieces limit (bytes ++ piece) pieces
    | _, _ => result

end Groundcover.Deflate
