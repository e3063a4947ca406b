/-!
Checksums of bytes (CRC-32): what remains of the bytes, as a polynomial over bits, after division.
The lowest bit stands for the highest power.
-/

namespace Groundcover.Checksum

def divisor : UInt32 := 0xedb88320

/-- The remainder after one bit. -/
def shift (remainder : UInt32) : UInt32 :=
  if remainder &&& 1 = 1 then (remainder >>> 1) ^^^ divisor else remainder >>> 1

/-- The remainder after one byte. -/
def step (remainder : UInt32) (b : UInt8) : UInt32 :=
  (List.range 8).foldl (fun r _ => shift r) (remainder ^^^ b.toUInt32)

/-- The checksum of bytes. The remainder is inverted at both ends. -/
def crc (bytes : List UInt8) : UInt32 := bytes.foldl step 0xffffffff ^^^ 0xffffffff

end Groundcover.Checksum
