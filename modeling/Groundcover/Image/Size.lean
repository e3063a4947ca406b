import Groundcover.Image
import Groundcover.Image.Jpeg
import Groundcover.Image.Png

/-!
Sizes of encoded images of the formats that can be read.
-/

namespace Groundcover.ImageFormat

/-- The size of an image in a format. -/
def size (format : ImageFormat) (bytes : List UInt8) : Except ImageError (Nat × Nat) :=
  match format with
  | png => Png.size bytes
  | jpeg => Jpeg.size bytes
  | other => .error (.unsupported other)

def isSupported (format : ImageFormat) : Bool := format == png || format == jpeg

end Groundcover.ImageFormat
