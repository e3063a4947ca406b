import Groundcover.Image.Bytes
import Groundcover.Image.Checksum
import Groundcover.Image.Deflate

/-!
PNG files: a signature and chunks with checksums, of which the first holds the size of the image and
later ones the compressed rows. Reading goes on until a chunk follows the rows.
-/

namespace Groundcover.Png

open ImageFormat

def malformed (reason : String) : ImageError := .malformed .png reason

def signature : List (List UInt8) := [[0x89, 0x50, 0x4e, 0x47], [0x0d, 0x0a, 0x1a, 0x0a]]

/-- What follows the parts of the signature. -/
def afterSignature : List (List UInt8) → List UInt8 → Except ImageError (List UInt8)
  | [], bytes => .ok bytes
  | part :: parts, bytes =>
    match splitOff? part.length bytes with
    | none => .error .unexpectedEnd
    | some (found, rest) =>
      if found = part then afterSignature parts rest
      else .error (malformed "Invalid PNG signature.")

/-! Chunks -/

def headerType : List UInt8 := [0x49, 0x48, 0x44, 0x52]

def paletteType : List UInt8 := [0x50, 0x4c, 0x54, 0x45]

def dataType : List UInt8 := [0x49, 0x44, 0x41, 0x54]

def endType : List UInt8 := [0x49, 0x45, 0x4e, 0x44]

/-- Says what part of the image a frame of an animation covers. -/
def frameType : List UInt8 := [0x66, 0x63, 0x54, 0x4c]

/-- Holds the rows of a frame behind the first. -/
def frameDataType : List UInt8 := [0x66, 0x64, 0x41, 0x54]

def colourSpaceType : List UInt8 := [0x63, 0x49, 0x43, 0x50]

def backgroundType : List UInt8 := [0x62, 0x4b, 0x47, 0x44]

/-- A chunk that an image cannot do without has a type that begins with a capital letter. -/
def isCritical (type : List UInt8) : Bool := type.head?.any fun b => !b.toNat.testBit 5

/-- The least and the greatest length that a chunk may have. -/
def lengths : List (List UInt8 × Nat × Nat) :=
  [(headerType, 13, 13), (paletteType, 3, 768), (endType, 0, 0), (frameType, 26, 26),
   (colourSpaceType, 4, 4), (backgroundType, 1, 6)]

def hasLength (type : List UInt8) (length : Nat) : Bool :=
  (lengths.lookup type).all fun (least, greatest) => least ≤ length && length ≤ greatest

/-- The length and the type of the next chunk, and what follows them. -/
def chunkStart? (bytes : List UInt8) : Option (Nat × List UInt8 × List UInt8) := do
  let (length, rest) ← splitOff? 4 bytes
  let (type, rest) ← splitOff? 4 rest
  return (bigEndian length, type, rest)

/-- Whether a chunk has the checksum that is stated behind it. -/
def isIntact (type content sum : List UInt8) : Bool :=
  (Checksum.crc (type ++ content)).toNat == bigEndian sum

/-! The header -/

/-- What the samples of a pixel mean. -/
inductive Colour
  | grey
  | rgb
  | indexed
  | greyAlpha
  | rgbAlpha
  deriving DecidableEq, Repr

namespace Colour

def ofCode? : Nat → Option Colour
  | 0 => some grey
  | 2 => some rgb
  | 3 => some indexed
  | 4 => some greyAlpha
  | 6 => some rgbAlpha
  | _ => none

/-- The number of samples of a pixel. -/
def samples : Colour → Nat
  | grey | indexed => 1
  | greyAlpha => 2
  | rgb => 3
  | rgbAlpha => 4

/-- How many bits a sample may have. -/
def depths : Colour → List Nat
  | grey => [1, 2, 4, 8, 16]
  | indexed => [1, 2, 4, 8]
  | rgb | greyAlpha | rgbAlpha => [8, 16]

end Colour

/-- What the first chunk states. -/
structure Header where
  width : Nat
  height : Nat
  depth : Nat
  colour : Colour
  isInterlaced : Bool
  deriving DecidableEq, Repr

/-- The header in the content of the first chunk. -/
def Header.ofContent (content : List UInt8) : Except ImageError Header := do
  let (width, height) ←
    sized .png (bigEndian (content.take 4)) (bigEndian ((content.drop 4).take 4))
  match (content.drop 8).map UInt8.toNat with
  | [depth, colour, compression, filter, interlacing] =>
    match Colour.ofCode? colour with
    | none => throw (malformed "Invalid color type.")
    | some colour =>
      if depth ∉ colour.depths then throw (malformed "Invalid color type and bit depth.")
      if compression ≠ 0 ∨ filter ≠ 0 then throw (malformed "Unknown compression or filter method.")
      if 1 < interlacing then throw (malformed "Unknown interlace method.")
      return ⟨width, height, depth, colour, interlacing == 1⟩
  | _ => throw (malformed "The header has a wrong length.")

/-- How many bytes a pixel takes. Palettes hold red, green and blue, and no sample shares a byte. -/
def Header.pixelSize (h : Header) : Nat :=
  (if h.colour = .indexed then 3 else h.colour.samples) * ((h.depth + 7) / 8)

/-- What comes before the rows. -/
structure Prelude where
  header : Header
  hasPalette : Bool := false
  hasColourSpace : Bool := false
  /-- How many frames of an animation have been announced. -/
  frames : Nat := 0

/-- Whether a frame of an animation is the next one, covers the image, and is shown
in a known way. -/
def Prelude.admitsFrame (p : Prelude) (content : List UInt8) : Bool :=
  let number (position : Nat) := bigEndian ((content.drop position).take 4)
  number 0 == p.frames && number 4 == p.header.width && number 8 == p.header.height
    && number 12 == 0 && number 16 == 0 && content.getD 24 0 ≤ 2 && content.getD 25 0 ≤ 1

/-- Whether a colour space is one of red, green and blue, and states its range. -/
def isColourSpace : List UInt8 → Bool
  | [_, _, matrix, range] => matrix == 0 && range ≤ 1
  | _ => false

/-- Adds a chunk to what came before it. The header and the palette stand once. -/
def Prelude.add (p : Prelude) (type content : List UInt8) : Except ImageError Prelude :=
  if type = headerType ∨ type = paletteType ∧ p.hasPalette then
    .error (malformed "A chunk is duplicate.")
  else if type = endType then .error (malformed "There is no image data.")
  else if type = paletteType then .ok { p with hasPalette := true }
  else if type = frameType then
    if p.admitsFrame content then .ok { p with frames := p.frames + 1 }
    else .error (malformed "A frame does not fit.")
  else if type = colourSpaceType ∧ !p.hasPalette ∧ !p.hasColourSpace then
    if isColourSpace content then .ok { p with hasColourSpace := true } else .error .invalidData
  else if type = backgroundType ∧ p.header.colour = .indexed ∧ !p.hasPalette then
    .error .invalidData
  else .ok p

/-- Starts with the header, or adds a chunk that has a length it may have. -/
def Prelude.next (p : Option Prelude) (type content : List UInt8) : Except ImageError Prelude :=
  match p with
  | none => do return { header := ← Header.ofContent content }
  | some p => if hasLength type content.length then p.add type content else .ok p

/-- Whether a chunk of this type and length may come next. -/
def isExpected (p : Option Prelude) (type : List UInt8) (length : Nat) : Bool :=
  match p with
  | none => type == headerType && hasLength type length
  | some _ =>
    if [headerType, paletteType, endType, frameType].contains type then hasLength type length
    else type == dataType || !isCritical type && type != frameDataType

/-- Chunks up to the rows, which stay. A broken chunk that an image can do without
is passed over. -/
def preludeOf : Nat → Option Prelude → List UInt8 → Except ImageError (Prelude × List UInt8)
  | 0, _, _ => .error .unexpectedEnd
  | fuel + 1, p, bytes =>
    match chunkStart? bytes with
    | none => .error .unexpectedEnd
    | some (length, type, rest) =>
      if !isExpected p type length then
        .error (malformed "A chunk is out of place, not known, or of a wrong length.")
      else
        match p, type == dataType with
        | some p, true => .ok (p, bytes)
        | p, _ =>
          match splitOff? length rest with
          | none => .error .unexpectedEnd
          | some (content, rest) =>
            match splitOff? 4 rest with
            | none => .error .unexpectedEnd
            | some (sum, rest) =>
              if isIntact type content sum then do
                preludeOf fuel (some (← Prelude.next p type content)) rest
              else if isCritical type then .error (malformed "A checksum is wrong.")
              else preludeOf fuel p rest

/-! Rows -/

/-- How the chunks of rows end: before another chunk, with the file, or at a wrong checksum. -/
inductive Ending
  | finished
  | cutOff
  | broken
  deriving DecidableEq, Repr

/-- The compressed rows, which may spread over chunks that follow each other. -/
def rowData : Nat → List UInt8 → List (List UInt8) × Ending
  | 0, _ => ([], .cutOff)
  | fuel + 1, bytes =>
    match chunkStart? bytes with
    | none => ([], .cutOff)
    | some (length, type, rest) =>
      if type ≠ dataType then ([], .finished)
      else
        match splitOff? length rest with
        | none => ([rest], .cutOff)
        | some (content, rest) =>
          match splitOff? 4 rest with
          | none => ([content], .cutOff)
          | some (sum, rest) =>
            if isIntact type content sum then
              let (more, ending) := rowData fuel rest
              (content :: more, ending)
            else ([content], .broken)

/-- Rows of one length. Each is a byte that names its filter and the bytes of its pixels. -/
structure Pass where
  rows : Nat
  rowLength : Nat
  deriving DecidableEq, Repr

def Pass.size (p : Pass) : Nat := p.rows * p.rowLength

/-- The rows of so many pixels. -/
def Header.pass (h : Header) (width height : Nat) : Pass :=
  ⟨height, 1 + (width * h.colour.samples * h.depth + 7) / 8⟩

/-- Rows without pixels are left out. -/
def Pass.isThere (p : Pass) : Bool := 1 < p.rowLength

/-- Which pixels the passes of an interlaced image hold: the first and the step, across and down. -/
def interlacing : List ((Nat × Nat) × (Nat × Nat)) :=
  [((0, 8), (0, 8)), ((4, 8), (0, 8)), ((0, 4), (4, 8)), ((2, 4), (0, 4)), ((0, 2), (2, 4)),
   ((1, 2), (0, 2)), ((0, 1), (1, 2))]

/-- How many of so many places a first one and a step reach. -/
def reached (total : Nat) (grid : Nat × Nat) : Nat := (total - grid.1 + grid.2 - 1) / grid.2

def Header.passes (h : Header) : List Pass :=
  if h.isInterlaced then
    interlacing.map fun (across, down) => h.pass (reached h.width across) (reached h.height down)
  else [h.pass h.width h.height]

/-- The length of rows together. -/
def totalSize (passes : List Pass) : Nat := passes.foldl (fun n p => n + p.size) 0

/-- Whether the rows that are there name filters that exist. -/
def hasFilters (output : Array UInt8) (stop : Nat) : Nat → List Pass → Bool
  | _, [] => true
  | start, p :: passes =>
    ((List.range (min p.rows ((stop - start) / p.rowLength))).all fun i =>
        output[start + i * p.rowLength]?.all (· ≤ 4))
      && hasFilters output stop (start + p.size) passes

/-- Bytes that are kept back while more are to come, for copies to reach into. -/
def keptBack : Nat := 32768

/-- Whether the rows are there and can be read, if chunks of rows end in this way. -/
def checkEnding (isWhole : Bool) : Ending → Except ImageError Unit
  | .broken => .error (malformed "A checksum is wrong.")
  | .cutOff => .error .unexpectedEnd
  | .finished => if isWhole then .ok () else .error (malformed "There is too little image data.")

/--
Whether the rows can be read. Bytes are gathered up to the length of all rows, with those left out,
and a file that ends early is at fault only if what is there is not.
-/
def checkRows (h : Header) (pieces : List (List UInt8)) (ending : Ending) :
    Except ImageError Unit :=
  let passes := h.passes.filter Pass.isThere
  let inflated := Deflate.inflatePieces (totalSize h.passes) [] pieces
  let size := inflated.output.size
  let check (usable : Nat) (isWhole : Bool) :=
    if hasFilters inflated.output usable 0 passes then checkEnding isWhole ending
    else .error (malformed "Unknown filter method.")
  match inflated.ending with
  | .error .corrupt => .error (malformed "Corrupt deflate stream.")
  | .error .ended => check (size - keptBack) false
  | .error .full | .ok _ => check size (totalSize passes ≤ size)

/-- The size of the image in a file. -/
def size (bytes : List UInt8) : Except ImageError (Nat × Nat) := do
  let bytes ← afterSignature signature bytes
  let (p, bytes) ← preludeOf (bytes.length + 1) none bytes
  checkMemory p.header.width p.header.height p.header.pixelSize
  if p.header.colour = .indexed ∧ !p.hasPalette then throw (malformed "The palette is missing.")
  let (pieces, ending) := rowData (bytes.length + 1) bytes
  checkRows p.header pieces ending
  return (p.header.width, p.header.height)

end Groundcover.Png
