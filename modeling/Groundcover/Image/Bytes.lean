import Groundcover.Image.Format

/-!
Reading encoded images, which are bytes with numbers and parts of announced lengths among them.
-/

namespace Groundcover.ImageFormat

/-- A number in the given bytes, the highest byte first. -/
def bigEndian (bytes : List UInt8) : Nat := bytes.foldl (fun n b => n * 256 + b.toNat) 0

/-- The first bytes and the rest, if there are that many. -/
def splitOff? (count : Nat) (bytes : List UInt8) : Option (List UInt8 × List UInt8) :=
  if count ≤ bytes.length then some (bytes.splitAt count) else none

/-- A size without a side of length zero. -/
def sized (format : ImageFormat) (width height : Nat) : Except ImageError (Nat × Nat) :=
  if width = 0 ∨ height = 0 then .error (.malformed format "Image width or height is zero")
  else .ok (width, height)

/-- How many bytes the pixels of an image may take. -/
def memoryLimit : Nat := 512 * 1024 * 1024

/-- Makes sure that there is room for pixels of so many bytes each. -/
def checkMemory (width height pixelSize : Nat) : Except ImageError Unit :=
  if memoryLimit < width * height * pixelSize then .error .tooLarge else .ok ()

end Groundcover.ImageFormat
