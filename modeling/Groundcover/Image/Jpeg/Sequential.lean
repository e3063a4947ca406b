import Groundcover.Image.Jpeg.Bits

/-!
Frames whose blocks are read one after the other, each with all of its frequencies. Between rows of
units there may be markers. A scan need not hold all components; others then follow.
-/

namespace Groundcover.Jpeg.Sequential

open Bits

/-- A component in a unit: how many blocks it has there, and their codes. -/
structure Member where
  blocks : Nat
  sum : PrefixCode
  variation : PrefixCode

/-- Reads how the samples of a block vary. The argument is how many frequencies are left. -/
def variations (code : PrefixCode) : Nat → Reading Unit
  | 0 => pure ()
  | left + 1 => do
    refill
    let symbol ← symbol code
    let run := symbol / 16
    let size := symbol % 16
    if size = 0 ∧ run ≠ 15 then pure ()
    else
      skip size
      variations code (left - run)

/-- How many frequencies there are besides the sum. -/
def frequencies : Nat := 63

def block (m : Member) : Reading Unit := do
  Bits.sum m.sum
  variations m.variation frequencies

def unit (members : List Member) : Reading Unit :=
  members.forM fun m => (List.range m.blocks).forM fun _ => block m

/-- Reads units up to the end of a row, or to a marker before. It counts down to
the next restart. -/
def units (interval : Nat) (members : List Member) : Nat → Nat → Reading Nat
  | 0, countdown => pure countdown
  | count + 1, countdown => do
    unit members
    let countdown ← counted interval countdown
    if (← get).atMarker then pure countdown else units interval members count countdown

/-- How far reading has come. -/
structure Course where
  settings : Settings
  scan : Scan
  bits : Bits
  countdown : Nat

namespace Course

/-- The components of the scan. -/
def members (c : Course) (frame : Frame) : Except Stop (List Member) :=
  c.scan.members.mapM fun place =>
    match frame.components[place]? with
    | none => .error .enough
    | some component =>
      match c.settings.code? .sum component.sum,
        c.settings.code? .variation component.variation with
      | some sum, some variation => .ok ⟨component.blocks, sum, variation⟩
      | _, _ => .error (.failed (malformed "No Huffman table for component"))

/-- Takes what follows a marker. -/
def take (c : Course) (marker : Marker) (bytes : List UInt8) : Except Stop Course := do
  let (settings, bytes) ← orFail (c.settings.take marker bytes)
  let countdown := if marker = .restartInterval then settings.restartInterval else c.countdown
  return { c with settings, countdown, bits := { bytes, missing := c.bits.missing } }

/-- Takes the header of another scan. -/
def takeScan (c : Course) (bytes : List UInt8) : Except Stop Course := do
  let (settings, scan, bytes) ← orFail (c.settings.takeScan bytes)
  return { c with settings, scan, bits := { bytes, missing := c.bits.missing } }

/-- Goes on to the next scan. -/
def upToScan (c : Course) : Nat → Except Stop Course
  | 0 => .error .enough
  | fuel + 1 =>
    match markerAmongBits? c.bits.bytes with
    | none => .error (.failed exhausted)
    | some (.ending, _) => .error .enough
    | some (.restart, bytes) => upToScan { c with bits := { c.bits with bytes } } fuel
    | some (.scan, bytes) => c.takeScan bytes
    | some (marker, bytes) => do (← c.take marker bytes).upToScan fuel

/-- What comes behind a row. -/
inductive Next
  | row (c : Course)
  | scan (c : Course)

/-- Takes what follows the marker behind a row. Nothing follows a scan that holds all components. -/
def afterRow (isWhole : Bool) (c : Course) : Except Stop Next :=
  match c.bits.marker with
  | none | some .restart => .ok (.row c)
  | some .ending => .error .enough
  | some .scan => do
    let next ← c.takeScan c.bits.bytes
    if isWhole then throw .enough else return .scan next
  | some marker => do
    let next ← c.take marker c.bits.bytes
    if isWhole then return .row next
    else return .scan (← next.upToScan (next.bits.bytes.length + 1))

/-- How many bytes may be missing before it is no use to read on. -/
def patience : Nat := 37

/-- Reads rows up to the end of the image or to another scan, from which reading goes on. -/
def rows (frame : Frame) (isWhole : Bool) (width : Nat) : Nat → Course → Except Stop Course
  | 0, _ => .error .enough
  | height + 1, c => do
    if patience < c.bits.missing then throw .enough
    let members ← c.members frame
    let (countdown, bits) ← units c.settings.restartInterval members width c.countdown c.bits
    match ← afterRow isWhole { c with countdown, bits } with
    | .row c => rows frame isWhole width height c
    | .scan c => return c

/-- Reads scans. Each takes bytes for its header. -/
def scans (isWhole : Bool) : Nat → Course → Except Stop Unit
  | 0, _ => .ok ()
  | fuel + 1, c =>
    match c.settings.frame with
    | none => .ok ()
    | some frame => do
      let (width, height) := frame.units
      scans isWhole fuel (← rows frame isWhole width height c)

end Course

/-- Reads the pixels behind the header of the first scan. -/
def read (settings : Settings) (frame : Frame) (scan : Scan) (bytes : List UInt8) :
    Except Stop Unit :=
  Course.scans (scan.members.length == frame.components.length) (bytes.length + 1)
    ⟨settings, scan, { bytes }, settings.restartInterval⟩

end Groundcover.Jpeg.Sequential
