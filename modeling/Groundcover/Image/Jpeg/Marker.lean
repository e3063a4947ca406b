import Groundcover.Image.Bytes

/-!
Markers of JPEG files. A marker is a byte behind one of all ones; most of them are followed by a
segment that states its length.
-/

namespace Groundcover.Jpeg

open ImageFormat

def malformed (reason : String) : ImageError := .malformed .jpeg reason

def exhausted : ImageError := malformed "Exhausted data in the image"

/-- What a marker announces. -/
inductive Marker
  | frame (isProgressive : Bool)
  | codes
  | quantization
  | scan
  | restartInterval
  | restart
  | start
  | ending
  | comment
  | application (number : Nat)
  | unusable
  deriving DecidableEq, Repr

/-- The marker of a byte, if it is a known one. -/
def Marker.ofByte? (b : UInt8) : Option Marker :=
  match b with
  | 0xc0 | 0xc1 => some (frame false)
  | 0xc2 => some (frame true)
  | 0xc4 => some codes
  | 0xcc | 0xdc => some unusable
  | 0xd8 => some start
  | 0xd9 => some ending
  | 0xda => some scan
  | 0xdb => some quantization
  | 0xdd => some restartInterval
  | 0xe0 | 0xe1 | 0xe2 | 0xed | 0xee => some (application (b.toNat - 0xe0))
  | 0xfe => some comment
  | b => if 0xd0 ≤ b && b ≤ 0xd7 then some restart else none

/--
The next marker between segments and what follows it, given the byte before. Other bytes are passed
over, and bytes that fill up. The marker need not be a known one.
-/
def nextMarker? (last : UInt8) : List UInt8 → Option (Option Marker × List UInt8)
  | [] => none
  | b :: rest =>
    if last = 0xff ∧ b ≠ 0xff ∧ b ≠ 0 then some (Marker.ofByte? b, rest) else nextMarker? b rest

/-- What follows a byte of all ones: a marker, which is given with what follows it, or a zero. -/
def afterOnes (bytes : List UInt8) : Option (UInt8 × List UInt8) :=
  match bytes.dropWhile (· == 0xff) with
  | b :: rest => some (b, rest)
  | [] => none

/-- The next marker among the bits of a scan, if it is a known one, and what follows it. -/
def markerAmongBits? (bytes : List UInt8) : Option (Marker × List UInt8) :=
  match nextMarker? 0 bytes with
  | some (some m, rest) => some (m, rest)
  | _ => none

/-- The content of a segment, whose length counts itself, and what follows. -/
def segment (bytes : List UInt8) : Except ImageError (List UInt8 × List UInt8) :=
  match splitOff? 2 bytes with
  | none => .error exhausted
  | some (length, rest) =>
    if bigEndian length < 2 then .error (malformed "Found a marker with invalid length")
    else
      match splitOff? (bigEndian length - 2) rest with
      | none => .error exhausted
      | some parts => .ok parts

/-- The same for a segment that nobody reads, which may be cut off. -/
def looseSegment (bytes : List UInt8) : Except ImageError (List UInt8 × List UInt8) :=
  match splitOff? 2 bytes with
  | none => .error exhausted
  | some (length, rest) =>
    if bigEndian length < 2 then .error (malformed "Found a marker with invalid length")
    else .ok (rest.splitAt (bigEndian length - 2))

end Groundcover.Jpeg
