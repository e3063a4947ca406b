import Groundcover.Image.Jpeg.Settings

/-!
The bits of a scan. They are read ahead, four bytes at a time, up to a marker. A byte of all ones is
followed by a zero where it is no marker. Bits that are missing count as zeros.
-/

namespace Groundcover.Jpeg

/-- Why pixels are not read on: what is left is made up for, or the file holds no image. -/
inductive Stop
  | enough
  | failed (e : ImageError)
  deriving DecidableEq, Repr

/-- What cannot be used ends the reading. -/
def orFail (result : Except ImageError α) : Except Stop α := result.mapError .failed

/-- The bits read ahead, the bytes behind them, the marker between, and how many
bytes are missing. -/
structure Bits where
  bits : List Bool := []
  bytes : List UInt8
  marker : Option Marker := none
  missing : Nat := 0
  deriving DecidableEq, Repr

abbrev Reading := StateT Bits (Except Stop)

namespace Bits

/-- The bits of a byte, the highest first. -/
def ofByte (b : UInt8) : List Bool := (List.range 8).reverse.map b.toNat.testBit

/-- Reads ahead so many bytes, or up to a marker. -/
def ahead : Nat → Bits → Except Stop Bits
  | 0, s => .ok s
  | count + 1, s =>
    match s.bytes with
    | [] => ahead count { s with bits := s.bits ++ ofByte 0, missing := s.missing + 1 }
    | b :: bytes =>
      let further := { s with bits := s.bits ++ ofByte b, bytes }
      if b ≠ 0xff then ahead count further
      else
        match afterOnes bytes with
        | none => ahead count { further with bytes := [] }
        | some (0, bytes) => ahead count { further with bytes }
        | some (b, bytes) =>
          match Marker.ofByte? b with
          | some marker => .ok { s with bytes, marker := some marker }
          | none => .error .enough

/-- How many bits are enough for a word and for the bits that it announces. -/
def plenty : Nat := 32

/-- Reads ahead where there may be too few bits. -/
def refill : Reading Unit := fun s =>
  if s.bits.length < plenty ∧ s.marker = none then (ahead 4 s).map ((), ·) else .ok ((), s)

/-- How many bits the longest words have. -/
def maxLength : Nat := 16

/-- The next symbol of a code. -/
def symbol (code : PrefixCode) : Reading Nat := fun s =>
  match code.symbol (s.bits ++ List.replicate maxLength false) with
  | .error _ => .error .enough
  | .ok (symbol, rest) =>
    .ok (symbol, { s with bits := s.bits.drop (s.bits.length + maxLength - rest.length) })

/-- The next bit. -/
def bit : Reading Bool := fun s => .ok (s.bits.headD false, { s with bits := s.bits.drop 1 })

/-- The next bit, where none may be missing. -/
def presentBit : Reading Bool := do
  if (← get).bits.isEmpty then refill
  if (← get).bits.isEmpty then throw .enough
  bit

/-- A number of so many bits, the highest first. -/
def number (count : Nat) : Reading Nat := fun s =>
  let bits := (s.bits ++ List.replicate count false).take count
  .ok (bits.foldl (fun n b => 2 * n + b.toNat) 0, { s with bits := s.bits.drop count })

/-- Passes over so many bits. -/
def skip (count : Nat) : Reading Unit := modify fun s => { s with bits := s.bits.drop count }

/-- Whether a marker comes next. -/
def atMarker (s : Bits) : Bool := s.bits.isEmpty && s.marker.isSome

/-! Restarts -/

/-- The marker that comes next. It is looked for where none is known. -/
def findMarker : Reading Marker := fun s =>
  match s.marker with
  | some marker => .ok (marker, s)
  | none =>
    match markerAmongBits? s.bytes with
    | none => .error (.failed exhausted)
    | some (marker, bytes) => .ok (marker, { s with bytes, marker := some marker })

/-- Goes on behind a restart. The end of the image may come early. -/
def restart : Reading Unit := do
  match ← findMarker with
  | .restart => modify fun s => { s with bits := [], marker := none }
  | .ending => pure ()
  | _ => throw (.failed (malformed "Marker found in bitstream, possibly corrupt jpeg"))

/-- Counts a unit, and restarts where it is time to. A count of zero means that it never is. -/
def counted (interval countdown : Nat) : Reading Nat := do
  if countdown = 1 then
    refill
    restart
    return interval
  else return countdown - 1

/-- The sum of the samples of a block. It is given by the number of bits that it takes. -/
def sum (code : PrefixCode) : Reading Unit := do
  refill
  skip (← symbol code)

end Bits

end Groundcover.Jpeg
