import Std.Data.HashMap
import Groundcover.Image.Jpeg.Bits

/-!
Frames whose blocks become better with every scan. A scan holds sums of blocks, or other frequencies
for one component. What a refinement takes depends on which frequencies were seen before, so these
are kept. A scan that breaks ends the reading; what there is makes an image.
-/

namespace Groundcover.Jpeg.Progressive

open Bits

/-- The frequencies seen so far, as bits, by component and block. -/
abbrev Seen := Std.HashMap (Nat × Nat) Nat

/-- What is left after a block: frequencies seen in it, and for how many more blocks
there are none. -/
structure Outcome where
  seen : Nat
  empty : Nat
  deriving DecidableEq, Repr

/-- Adds a frequency. -/
def mark (seen frequency : Nat) : Nat := seen ||| Nat.pow 2 (min frequency 63)

/-- For how many blocks there are no more frequencies, this one included. -/
def emptyBlocks (size : Nat) : Reading Nat := do return Nat.pow 2 size + (← number size)

/-- Reads frequencies of a block for the first time. Each symbol goes on by one at least. -/
def firstTime (code : PrefixCode) (last : Nat) : Nat → Nat → Nat → Reading Outcome
  | 0, _, seen => pure ⟨seen, 0⟩
  | fuel + 1, frequency, seen => do
    refill
    let symbol ← symbol code
    let run := symbol / 16
    let size := symbol % 16
    if size = 0 ∧ run ≠ 15 then return ⟨seen, (← emptyBlocks run) - 1⟩
    else
      skip size
      let seen := if size = 0 then seen else mark seen (frequency + run)
      let next := frequency + run + 1
      if last < next then return ⟨seen, 0⟩ else firstTime code last fuel next seen

/-- Reads a correction, and ahead where there are no more bits. -/
def correction : Reading Unit := do
  let _ ← bit
  if (← get).bits.isEmpty then refill

/--
Corrects the frequencies that were seen and passes over so many that were not. The result is how
many are left before the last, at the place reached.
-/
def advance (last seen : Nat) : Nat → Nat → Reading Nat
  | 0, _ => do
    if seen.testBit last then correction
    return 0
  | left + 1, run =>
    if seen.testBit (last - (left + 1)) then do
      correction
      advance last seen left run
    else
      match run with
      | 0 => pure (left + 1)
      | run + 1 => advance last seen left run

/-- The place of the frequency that comes after so many that were not seen, if there is room. -/
def newPlace (last seen frequency run : Nat) : Reading Nat :=
  if frequency ≤ last then (last - ·) <$> advance last seen (last - frequency) run
  else pure frequency

/-- Corrects all frequencies from one on. -/
def correctRest (seen : Nat) : Nat → Nat → Reading Unit
  | 0, _ => pure ()
  | count + 1, frequency => do
    if seen.testBit frequency then let _ ← bit
    if (← get).bits.isEmpty then refill
    correctRest seen count (frequency + 1)

/-- Corrects a block in which there are no more new frequencies. -/
def correctBlock (last frequency seen empty : Nat) : Reading Outcome := do
  if seen ≠ 0 then
    refill
    correctRest seen (last + 1 - frequency) frequency
  return ⟨seen, empty - 1⟩

/-- Reads frequencies of a block anew. New ones come with how many that were not seen are before. -/
def anew (code : PrefixCode) (last : Nat) : Nat → Nat → Nat → Reading Outcome
  | 0, _, seen => pure ⟨seen, 0⟩
  | fuel + 1, frequency, seen => do
    refill
    let symbol ← symbol code
    let run := symbol / 16
    let size := symbol % 16
    if size = 0 ∧ run ≠ 15 then
      correctBlock last frequency seen (← emptyBlocks run)
    else if 1 < size then throw .enough
    else
      skip size
      let place ← newPlace last seen frequency run
      let seen := if size = 0 then seen else mark seen place
      if last < place + 1 then return ⟨seen, 0⟩ else anew code last fuel (place + 1) seen

/-- Reads frequencies of a block, where `empty` is how many blocks have no new ones. -/
def variations (code : PrefixCode) (scan : Scan) (o : Outcome) : Reading Outcome :=
  match o.empty, scan.isRefinement with
  | 0, true => anew code scan.last 64 scan.first o.seen
  | 0, false => firstTime code scan.last 64 scan.first o.seen
  | empty, true => correctBlock scan.last scan.first o.seen empty
  | empty, false => pure ⟨o.seen, empty - 1⟩

/-- The sum of a block, or one more bit of it. -/
def sum (code : PrefixCode) (scan : Scan) : Reading Unit :=
  if scan.isRefinement then do let _ ← presentBit else Bits.sum code

/-! Scans -/

/-- The number of blocks or units of a scan of one component. -/
def count (frame : Frame) (place : Nat) (c : Component) : Nat :=
  let (width, height) :=
    if !frame.isSubsampled || place == 0 && c.blocks != 1 then frame.fullBlocks else frame.units
  width * height

/-- Reads the sums of blocks of one component. -/
def sums (code : PrefixCode) (scan : Scan) (interval : Nat) : Nat → Nat → Reading Unit
  | 0, _ => pure ()
  | count + 1, countdown => do
    sum code scan
    sums code scan interval count (← counted interval countdown)

/-- Reads frequencies of one component in the blocks from one on. A restart ends empty blocks. -/
def allVariations (code : PrefixCode) (scan : Scan) (interval place : Nat) :
    Nat → Nat → Nat → Nat → Seen → Reading Seen
  | 0, _, _, _, seen => pure seen
  | count + 1, index, empty, countdown, seen => do
    let o ← variations code scan ⟨seen.getD (place, index) 0, empty⟩
    let seen := if o.seen = 0 then seen else seen.insert (place, index) o.seen
    let empty := if countdown = 1 then 0 else o.empty
    allVariations code scan interval place count (index + 1) empty (← counted interval countdown)
      seen

/-- Reads units with the sums of blocks of several components. -/
def mixedSums (members : List (Nat × PrefixCode)) (scan : Scan) (interval : Nat) :
    Nat → Nat → Reading Unit
  | 0, _ => pure ()
  | count + 1, countdown => do
    members.forM fun (blocks, code) => (List.range blocks).forM fun _ => sum code scan
    mixedSums members scan interval count (← counted interval countdown)

/-- What there is no use for ends the reading. -/
def orEnough (value : Option α) : Reading α :=
  match value with
  | some a => pure a
  | none => throw .enough

/-- Reads a scan of one component. -/
def single (s : Settings) (frame : Frame) (scan : Scan) (place : Nat) (seen : Seen) :
    Reading Seen := do
  if scan.first = 0 ∧ scan.last ≠ 0 then throw .enough
  let c ← orEnough frame.components[place]?
  let count := count frame place c
  if scan.first = 0 then
    let code ← orEnough (s.code? .sum (c.sum % maxTables))
    sums code scan s.restartInterval count s.restartInterval
    return seen
  else
    let code ← orEnough (s.code? .variation c.variation)
    allVariations code scan s.restartInterval place count 0 0 s.restartInterval seen

/-- Reads a scan of several components, which holds sums only. -/
def mixed (s : Settings) (frame : Frame) (scan : Scan) : Reading Unit := do
  if scan.last ≠ 0 then throw .enough
  let members ← scan.members.mapM fun place => do
    let c ← orEnough frame.components[place]?
    return (c.blocks, ← orEnough (s.code? .sum c.sum))
  let (width, height) := frame.units
  mixedSums members scan s.restartInterval (width * height) s.restartInterval

/-- Reads a scan. There may not be more components than the colours have. -/
def readScan (s : Settings) (scan : Scan) (seen : Seen) : Reading Seen := do
  let frame ← orEnough s.frame
  if s.colours.count < scan.members.length then throw .enough
  match scan.members with
  | [place] => single s frame scan place seen
  | _ => do
    mixed s frame scan
    return seen

/-- Reads a scan and looks for the marker behind it. -/
def readScanAndMarker (s : Settings) (scan : Scan) (seen : Seen) : Reading (Seen × Marker) := do
  let seen ← readScan s scan seen
  return (seen, ← findMarker)

/-! Files -/

/-- How many scans there may be. -/
def maxScans : Nat := 100

/-- How far reading has come: what is known, and the next marker with what follows it. -/
structure Course where
  settings : Settings
  seen : Seen
  scans : Nat
  marker : Marker
  bytes : List UInt8

namespace Course

/-- Looks for the next marker. -/
def goOn (c : Course) : Option Course :=
  (markerAmongBits? c.bytes).map fun (marker, bytes) => { c with marker, bytes }

/-- Takes what follows a marker, if reading goes on behind it. -/
def step (c : Course) : Except ImageError (Option Course) :=
  match c.marker with
  | .ending => .ok none
  | .restart => .ok c.goOn
  | .scan => do
    let (settings, scan, bytes) ← c.settings.takeScan c.bytes
    match readScanAndMarker settings scan c.seen { bytes } with
    | .error _ => return none
    | .ok ((seen, marker), bits) =>
      if maxScans ≤ c.scans then throw (malformed "Too many scans")
      return some ⟨settings, seen, c.scans + 1, marker, bits.bytes⟩
  | marker => do
    let (settings, bytes) ← c.settings.take marker c.bytes
    return goOn { c with settings, bytes }

/-- Goes through what is behind the first scan. Every marker takes bytes. -/
def follow : Nat → Course → Except ImageError Unit
  | 0, _ => .ok ()
  | fuel + 1, c => do
    match ← c.step with
    | none => return ()
    | some next => follow fuel next

end Course

/-- Reads the pixels behind the header of the first scan, which has to be followed by a marker. -/
def read (s : Settings) (scan : Scan) (bytes : List UInt8) : Except ImageError Unit :=
  match readScan s scan {} { bytes } with
  | .error _ => .ok ()
  | .ok (seen, bits) =>
    match bits.marker with
    | none => .error (malformed "Marker missing where expected")
    | some marker => Course.follow (bytes.length + 2) ⟨s, seen, 1, marker, bits.bytes⟩

end Groundcover.Jpeg.Progressive
