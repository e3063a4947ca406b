import Groundcover.Image.Jpeg.Marker

/-!
Frames of JPEG files. A frame states the size of the image and its components, whose samples may be
fewer than pixels. Samples are coded in blocks of eight by eight, and blocks in units that cover the
same part of the image in all components.
-/

namespace Groundcover.Jpeg

open ImageFormat

/--
A component of the pixels: its blocks in a unit, the table that scales it, and the positions of its
codes, which the scans state.
-/
structure Component where
  id : UInt8
  across : Nat
  down : Nat
  quantization : Nat
  sum : Nat := 0
  variation : Nat := 0
  deriving DecidableEq, Repr

namespace Component

/-- How many blocks a unit may have across or down. -/
def samplings : List Nat := [1, 2, 4]

/-- A component from its three bytes. -/
def ofBytes (id sampling quantization : UInt8) : Except ImageError Component :=
  let across := sampling.toNat / 16
  let down := sampling.toNat % 16
  if 4 ≤ quantization then .error (malformed "Too large quantization number")
  else if samplings.contains across && samplings.contains down then
    .ok { id, across, down, quantization := quantization.toNat }
  else .error (malformed "The sampling cannot be decoded")

def listOf : List UInt8 → Except ImageError (List Component)
  | id :: sampling :: quantization :: rest => do
    return (← ofBytes id sampling quantization) :: (← listOf rest)
  | _ => .ok []

/-- The number of blocks in a unit. -/
def blocks (c : Component) : Nat := c.across * c.down

end Component

structure Frame where
  width : Nat
  height : Nat
  isProgressive : Bool
  components : List Component
  deriving DecidableEq, Repr

namespace Frame

def maxComponents : Nat := 4

/-- A frame from the content of its segment. -/
def ofContent (isProgressive : Bool) (content : List UInt8) : Except ImageError Frame :=
  match content with
  | precision :: h1 :: h0 :: w1 :: w0 :: count :: rest => do
    if precision ≠ 8 then throw (malformed "The library can only parse 8-bit images")
    let (width, height) ← sized .jpeg (bigEndian [w1, w0]) (bigEndian [h1, h0])
    if rest.length ≠ 3 * count.toNat then throw (malformed "The length of the frame is wrong")
    if count = 0 ∨ maxComponents < count.toNat then throw (malformed "Bad number of components")
    return ⟨width, height, isProgressive, ← Component.listOf rest⟩
  | _ => .error exhausted

def maxAcross (f : Frame) : Nat := f.components.foldl (fun n c => max n c.across) 1

def maxDown (f : Frame) : Nat := f.components.foldl (fun n c => max n c.down) 1

/-- Whether a unit has more than one block of some component. -/
def isSubsampled (f : Frame) : Bool := f.maxAcross != 1 || f.maxDown != 1

/-- How many parts of a length cover a whole. -/
def partsOf (whole length : Nat) : Nat := (whole + length - 1) / length

/-- How many units cover the image across and down. -/
def units (f : Frame) : Nat × Nat :=
  (partsOf f.width (8 * f.maxAcross), partsOf f.height (8 * f.maxDown))

/-- How many blocks cover the image across and down where samples are as many as pixels. -/
def fullBlocks (f : Frame) : Nat × Nat := (partsOf f.width 8, partsOf f.height 8)

/-- The frame in which a component is taken to have as many samples as there are pixels. -/
def withoutSubsampling (f : Frame) : Frame :=
  { f with components := f.components.map fun c => { c with across := 1, down := 1 } }

end Frame

end Groundcover.Jpeg
