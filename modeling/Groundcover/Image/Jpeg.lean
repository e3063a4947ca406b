import Groundcover.Image.Jpeg.Progressive
import Groundcover.Image.Jpeg.Sequential

/-!
JPEG files: markers with segments, of which one holds the frame with the size of the image, others
the tables that its components need, and some describe scans, behind which are the pixels. Pixels
that are missing or broken are made up for, but what stands between them has to make sense.
-/

namespace Groundcover.Jpeg

open ImageFormat

def hexDigits (n : Nat) : String := .ofList ((Nat.toDigits 16 n).map Char.toUpper)

/-- Reads the pixels of a frame. -/
def readPixels (s : Settings) (frame : Frame) (scan : Scan) (bytes : List UInt8) :
    Except ImageError Unit :=
  if frame.isProgressive then Progressive.read s scan bytes
  else
    match Sequential.read s frame scan bytes with
    | .error (.failed e) => .error e
    | _ => .ok ()

/-- The frame of the image in a file without the start. -/
def frameOf (bytes : List UInt8) : Except ImageError Frame := do
  let (s, scan, rest) ← Settings.upToScan {} (bytes.length + 1) bytes
  match s.frame with
  | none => throw (malformed "The first scan stands before the frame.")
  | some frame =>
    checkMemory frame.width frame.height (if s.colours = .grey then 1 else 3)
    let (s, frame) ← s.started frame
    readPixels s frame scan rest
    return frame

/-- The size of the image in a file. -/
def size (bytes : List UInt8) : Except ImageError (Nat × Nat) :=
  match splitOff? 2 bytes with
  | none => .error exhausted
  | some (start, rest) =>
    if start = [0xff, 0xd8] then (frameOf rest).map fun frame => (frame.width, frame.height)
    else
      .error (malformed
        ("Error decoding image. Illegal start bytes:" ++ hexDigits (bigEndian start)))

end Groundcover.Jpeg
