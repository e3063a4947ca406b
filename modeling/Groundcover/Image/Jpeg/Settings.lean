import Groundcover.Image.Jpeg.Frame
import Groundcover.Image.Jpeg.Tables

/-!
What the segments of a JPEG file have stated so far, and the headers of its scans. Later segments
take the place of earlier ones, except that there is one frame.
-/

namespace Groundcover.Jpeg

open ImageFormat

/-- What the samples of a pixel mean. -/
inductive Colours
  | grey
  | rgb
  | brightness
  | separated
  | separatedBrightness
  deriving DecidableEq, Repr

/-- How many components the colours have. -/
def Colours.count : Colours → Nat
  | grey => 1
  | rgb | brightness => 3
  | separated | separatedBrightness => 4

/-- A part of the pixels: some components by their places, and some of the frequencies. -/
structure Scan where
  members : List Nat
  first : Nat
  last : Nat
  isRefinement : Bool
  deriving DecidableEq, Repr

structure Settings where
  frame : Option Frame := none
  quantization : List Nat := []
  codes : List CodeTable := []
  restartInterval : Nat := 0
  colours : Colours := .brightness
  hasUsualCodes : Bool := false

namespace Settings

/-- The code of a kind at a position. -/
def code? (s : Settings) (kind : CodeKind) (position : Nat) : Option PrefixCode :=
  (s.codes.find? fun t => t.kind == kind && t.position == position).map CodeTable.code

/-! Segments -/

/-- A frame settles the colours where nothing else did. -/
def withFrame (s : Settings) (frame : Frame) : Settings :=
  let colours :=
    if frame.components.length = 1 then .grey
    else if frame.components.length = 4 ∧ s.colours = .brightness then .separated
    else s.colours
  { s with frame := some frame, colours }

/-- Begins the application segment of a picture in a film, which may do without codes. -/
def filmStart : List UInt8 := [0x41, 0x56, 0x49, 0x31, 0]

/-- Takes the segment in which films are marked. Its start is read even if it is too short. -/
def takeFilm (s : Settings) (bytes : List UInt8) : Except ImageError (Settings × List UInt8) :=
  match splitOff? 2 bytes with
  | none => .error exhausted
  | some (length, rest) =>
    let length := bigEndian length
    if length < 2 then .error (malformed "Found a marker with invalid length")
    else if length ≤ filmStart.length then .ok (s, rest.drop (length - 2))
    else
      match splitOff? filmStart.length rest with
      | none => .error exhausted
      | some (start, _) =>
        .ok ({ s with hasUsualCodes := s.hasUsualCodes || start == filmStart },
          rest.drop (max filmStart.length (length - 2)))

/-- Begins a segment with a part of a long description. -/
def partStart : List UInt8 :=
  [0x68, 0x74, 0x74, 0x70, 0x3a, 0x2f, 0x2f, 0x6e, 0x73, 0x2e, 0x61, 0x64, 0x6f, 0x62, 0x65, 0x2e,
   0x63, 0x6f, 0x6d, 0x2f, 0x78, 0x6d, 0x70, 0x2f, 0x65, 0x78, 0x74, 0x65, 0x6e, 0x73, 0x69, 0x6f,
   0x6e, 0x2f, 0x00]

/-- The least length of what follows: an identification, a length and an offset. -/
def leastPart : Nat := 40

/-- Whether a description is a part that lacks some of what every part has. -/
def isBrokenPart (content : List UInt8) : Bool :=
  partStart.length < content.length && partStart.isPrefixOf content
    && content.length < partStart.length + leastPart

/-- Begins the segment that states the colours. -/
def colourStart : List UInt8 := [0x41, 0x64, 0x6f, 0x62, 0x65]

/-- The place of the byte that states the colours. -/
def colourPlace : Nat := 11

/-- The colours that a segment states, if it is one that does. -/
def statedColours (content : List UInt8) : Except ImageError (Option Colours) :=
  if content.length ≤ colourPlace then .error (malformed "Too short of a length for App14 segment")
  else if colourStart.isPrefixOf content then
    match content.getD colourPlace 0 with
    | 0 => .ok (some .separated)
    | 1 => .ok (some .brightness)
    | 2 => .ok (some .separatedBrightness)
    | _ => .error (malformed "The colours are not known")
  else .ok none

/-- Takes what follows a marker that is neither the end nor the start of a scan. -/
def take (s : Settings) (marker : Marker) (bytes : List UInt8) :
    Except ImageError (Settings × List UInt8) :=
  match marker with
  | .frame isProgressive => do
    if s.frame.isSome then throw (malformed "Two Start of Frame Markers")
    let (content, rest) ← segment bytes
    return (s.withFrame (← Frame.ofContent isProgressive content), rest)
  | .quantization => do
    let (content, rest) ← segment bytes
    let tables ← quantizationTables content.length content
    return ({ s with quantization := tables ++ s.quantization }, rest)
  | .codes => do
    let (content, rest) ← segment bytes
    let tables ← codeTables content.length content
    return ({ s with codes := tables.reverse ++ s.codes }, rest)
  | .restartInterval => do
    let (content, rest) ← segment bytes
    if content.length ≠ 2 then throw (malformed "Bad DRI length, Corrupt JPEG")
    return ({ s with restartInterval := bigEndian content }, rest)
  | .application 0 => s.takeFilm bytes
  | .application 1 => do
    let (content, rest) ← looseSegment bytes
    if isBrokenPart content then throw (malformed "The description is too short")
    return (s, rest)
  | .application 14 => do
    let (content, rest) ← looseSegment bytes
    return ({ s with colours := (← statedColours content).getD s.colours }, rest)
  | .ending => .error (malformed "Premature End of image")
  | .unusable => .error (malformed "Parsing of the following header is not supported")
  | _ => do return (s, (← looseSegment bytes).2)

/-! Scans -/

/-- The places of the components of a scan in the frame, and the positions of their codes. -/
def memberList (frame : Frame) : List UInt8 → Except ImageError (List (Nat × Nat × Nat))
  | id :: tables :: rest =>
    match frame.components.findIdx? (·.id == id) with
    | none => .error (malformed "Invalid component id")
    | some place => do
      return (place, tables.toNat / 16, tables.toNat % 16) :: (← memberList frame rest)
  | _ => .ok []

/-- A scan from the content of its segment. What it says on codes is kept with the components. -/
def withScan (s : Settings) (content : List UInt8) : Except ImageError (Settings × Scan) :=
  match s.frame, content with
  | none, _ => .error (malformed "The first scan stands before the frame.")
  | _, [] => .error exhausted
  | some frame, count :: rest =>
    match splitOff? (2 * count.toNat) rest with
    | some (given, [first, last, approximation]) => do
      if count = 0 ∨ 4 < count then throw (malformed "Invalid number of components in the scan")
      let members ← memberList frame given
      let places := members.map Prod.fst
      if ¬places.Nodup then throw (malformed "A component is seen twice in the scan")
      if 63 < first ∨ 63 < last ∨ 13 < approximation / 16 ∨ 13 < approximation % 16 then
        throw (malformed "Invalid spectral parameters")
      let components := members.foldl (fun components (place, sum, variation) =>
        components.modify place fun c => { c with sum, variation }) frame.components
      return ({ s with frame := some { frame with components } },
        ⟨places, first.toNat, last.toNat, 16 ≤ approximation⟩)
    | _ => .error (malformed "Bad SOS length, corrupt jpeg")

/-- The scan that follows its marker, and what follows its header. -/
def takeScan (s : Settings) (bytes : List UInt8) :
    Except ImageError (Settings × Scan × List UInt8) := do
  let (content, rest) ← segment bytes
  let (s, scan) ← s.withScan content
  return (s, scan, rest)

/-- Goes through the segments up to the first scan. -/
def upToScan (s : Settings) : Nat → List UInt8 → Except ImageError (Settings × Scan × List UInt8)
  | 0, _ => .error exhausted
  | fuel + 1, bytes =>
    match nextMarker? 0 bytes with
    | none => .error exhausted
    | some (some .scan, rest) => s.takeScan rest
    | some (some marker, rest) => do
      let (s, rest) ← s.take marker rest
      s.upToScan fuel rest
    | some (none, rest) => do s.upToScan fuel (← looseSegment rest).2

/-! The start -/

/-- Colours that fit the components. Some may be more than there are components. -/
def fittingColours (s : Settings) (frame : Frame) : Except ImageError Colours :=
  let count := frame.components.length
  if count = 3 ∧ s.colours = .separated then .ok .rgb
  else if count < s.colours.count ∧ s.colours ≠ .separatedBrightness ∧ count ≠ 2 then
    .error (malformed "The colours need more components")
  else .ok s.colours

/-- The codes of a file that may do without, where it states none. -/
def missingCodes (s : Settings) : List CodeTable :=
  [(CodeKind.sum, 0), (.sum, 1), (.variation, 0), (.variation, 1)].filterMap fun (kind, position) =>
    match s.code? kind position with
    | some _ => none
    | none => (usualCode? kind position).map (CodeTable.mk kind position)

/-- Whether the codes that a component uses are there. -/
def hasCodes (s : Settings) (c : Component) : Bool :=
  (s.code? .sum c.sum).isSome && (s.code? .variation c.variation).isSome

/-- Makes sure that the pixels can be read. A grey image has no units of more than one block. -/
def started (s : Settings) (frame : Frame) : Except ImageError (Settings × Frame) := do
  if !frame.components.all fun c => s.quantization.contains c.quantization then
    throw (malformed "No quantization table for component")
  let colours ← s.fittingColours frame
  let s := if s.hasUsualCodes then { s with codes := s.codes ++ s.missingCodes } else s
  if !frame.isProgressive && !frame.components.all s.hasCodes then
    throw (malformed "No Huffman table for component")
  let frame := if colours = .grey then frame.withoutSubsampling else frame
  return ({ s with colours, frame := some frame }, frame)

end Settings

end Groundcover.Jpeg
