import Groundcover.LandCover

/-!
Land cover that is edited step by step, between one generation and the next. Edits name layers and
biomes by position; one that names something that is not there changes nothing.
-/

namespace Groundcover

/-- What an edit names that is not there. -/
inductive Missing
  | layer (position : Nat)
  | biome (position : Nat)
  deriving DecidableEq, Repr

namespace Layer

def biome (l : Layer) (position : Nat) : Except Missing Biome :=
  match l.biomes[position]? with
  | some b => .ok b
  | none => .error (.biome position)

/-- Exchanges two biomes. Of positions that are not there, the larger one is reported. -/
def swapBiomes (l : Layer) (a b : Nat) : Except Missing Layer :=
  match l.biomes[a]?, l.biomes[b]? with
  | some x, some y => .ok { l with biomes := (l.biomes.set a y).set b x }
  | _, _ => .error (.biome (max a b))

def removeBiome (l : Layer) (position : Nat) : Except Missing Layer := do
  let _ ← l.biome position
  return { l with biomes := l.biomes.eraseIdx position }

def editBiome (l : Layer) (position : Nat) (edit : Biome → Biome) : Except Missing Layer := do
  let b ← l.biome position
  return { l with biomes := l.biomes.set position (edit b) }

end Layer

/-- Land cover under construction with its source of coverage, which may be disconnected. -/
structure Session where
  legend : Option Legend := none
  binding : Option Binding := none
  connected : Bool := true
  options : ShaderOptions := {}
  layers : List Layer := []
  deriving DecidableEq

namespace Session

def coverage (s : Session) : Option Coverage :=
  if s.connected then some ⟨s.legend, s.binding⟩ else none

/-- Registers a predicate, in a new legend if there is none. -/
def register (s : Session) (name : String) (p : ValuePredicate) : Session :=
  { s with legend := some ((s.legend.getD {}).register name p) }

def addLayer (s : Session) (l : Layer) : Session := { s with layers := s.layers ++ [l] }

def layer (s : Session) (position : Nat) : Except Missing Layer :=
  match s.layers[position]? with
  | some l => .ok l
  | none => .error (.layer position)

def biome (s : Session) (layer position : Nat) : Except Missing Biome := do
  (← s.layer layer).biome position

def removeLayer (s : Session) (position : Nat) : Except Missing Session := do
  let _ ← s.layer position
  return { s with layers := s.layers.eraseIdx position }

/-- Edits one layer. -/
def editLayer (s : Session) (position : Nat) (edit : Layer → Except Missing Layer) :
    Except Missing Session := do
  let l ← edit (← s.layer position)
  return { s with layers := s.layers.set position l }

def setParams (s : Session) (position : Nat) (edit : LayerParams → LayerParams) :
    Except Missing Session :=
  s.editLayer position fun l => .ok { l with params := edit l.params }

def addBiome (s : Session) (position : Nat) (b : Biome) : Except Missing Session :=
  s.editLayer position fun l => .ok { l with biomes := l.biomes ++ [b] }

def swapBiomes (s : Session) (position a b : Nat) : Except Missing Session :=
  s.editLayer position fun l => l.swapBiomes a b

def removeBiome (s : Session) (layer position : Nat) : Except Missing Session :=
  s.editLayer layer fun l => l.removeBiome position

def addBillboard (s : Session) (layer position : Nat) (b : Billboard) : Except Missing Session :=
  s.editLayer layer fun l =>
    l.editBiome position fun biome => { biome with billboards := biome.billboards ++ [b] }

def clearBillboards (s : Session) (layer position : Nat) : Except Missing Session :=
  s.editLayer layer fun l => l.editBiome position fun biome => { biome with billboards := [] }

/-- Every shader of the land cover as it stands. -/
def generate (s : Session) : Logged (List LayerShaders) :=
  ({ layers := s.layers } : LandCover).generate s.coverage s.options

end Session

/-- A change of a session. -/
inductive Edit
  | connect (on : Bool)
  | setLegend (legend : Option Legend)
  | register (name : String) (predicate : ValuePredicate)
  | setBinding (binding : Option Binding)
  | setOptions (options : ShaderOptions)
  | addLayer (layer : Layer)
  | removeLayer (position : Nat)
  | setParams (layer : Nat) (edit : LayerParams → LayerParams)
  | addBiome (layer : Nat) (biome : Biome)
  | swapBiomes (layer a b : Nat)
  | removeBiome (layer position : Nat)
  | addBillboard (layer position : Nat) (billboard : Billboard)
  | clearBillboards (layer position : Nat)

namespace Session

def apply (s : Session) : Edit → Except Missing Session
  | .connect on => .ok { s with connected := on }
  | .setLegend legend => .ok { s with legend := legend }
  | .register name p => .ok (s.register name p)
  | .setBinding binding => .ok { s with binding := binding }
  | .setOptions options => .ok { s with options := options }
  | .addLayer l => .ok (s.addLayer l)
  | .removeLayer position => s.removeLayer position
  | .setParams layer edit => s.setParams layer edit
  | .addBiome layer b => s.addBiome layer b
  | .swapBiomes layer a b => s.swapBiomes layer a b
  | .removeBiome layer position => s.removeBiome layer position
  | .addBillboard layer position b => s.addBillboard layer position b
  | .clearBillboards layer position => s.clearBillboards layer position

/-- The session after an edit, which is the session itself if the edit fails. -/
def edited (s : Session) (e : Edit) : Session :=
  match s.apply e with
  | .ok t => t
  | .error _ => s

/-- The session after edits in order, whether or not all of them could be made. -/
def after (s : Session) (edits : List Edit) : Session := edits.foldl edited s

end Session

end Groundcover
