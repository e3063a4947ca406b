import Groundcover.Shader
import Groundcover.Text.Blank

/-!
Names of output files. A layer's name becomes a stem of ASCII letters, digits, hyphens and
underscores; a layer without a name is called by its position, and stems that are taken
get a number.
-/

namespace Groundcover.Output

/-- A character that may stand in a stem; any other becomes an underscore. -/
def stemChar (c : Char) : Char := if c.isAlphanum || c == '-' then c else '_'

/-- The stem of the layer at a position. -/
def stem (layer : String) (position : Nat) : String :=
  let kept := (Text.trim layer.toList).map stemChar
  if kept.isEmpty then "layer" ++ toString position else .ofList kept

def numbered (stem : String) (n : Nat) : String := stem ++ "-" ++ toString n

/-- The first numbered stem that is not taken, from `n` on, after at most `attempts` that are. -/
def firstFree (taken : List String) (stem : String) (n : Nat) : Nat → String
  | 0 => numbered stem n
  | attempts + 1 =>
    if numbered stem n ∈ taken then firstFree taken stem (n + 1) attempts else numbered stem n

/-- The stem itself, or with the smallest number from 2 on that makes it free. -/
def freeStem (taken : List String) (stem : String) : String :=
  if stem ∈ taken then firstFree taken stem 2 taken.length else stem

/-- The stems of layers in order, each different from those taken before it. -/
def stemsFrom (taken : List String) (position : Nat) : List String → List String
  | [] => []
  | layer :: rest =>
    let free := freeStem taken (stem layer position)
    free :: stemsFrom (free :: taken) (position + 1) rest

def stems (layers : List String) : List String := stemsFrom [] 0 layers

/-- The files of one layer. -/
def layerFiles (stem : String) (s : LayerShaders) : List (String × Shader) :=
  (stem ++ ".tables.glsl", s.tables) :: (stem ++ ".biome_index.glsl", s.index)
    :: s.coverage.zipIdx.map fun (shader, i) =>
      (stem ++ ".biome" ++ toString i ++ ".coverage.glsl", shader)

/-- All files to write, in order of generation. -/
def files (generated : List LayerShaders) : List (String × Shader) :=
  ((stems (generated.map LayerShaders.layer)).zip generated).flatMap fun (stem, s) =>
    layerFiles stem s

end Groundcover.Output
