/-!
Decoded images. Only the size of an image and which image it is matter to land cover.
-/

namespace Groundcover

/-- An image in memory: two images with one serial number are the same shared image. -/
structure Image where
  serial : Nat
  width : Nat
  height : Nat
  deriving DecidableEq, Inhabited

end Groundcover
