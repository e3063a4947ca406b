import Groundcover.Layer

/-!
Manifests: a land cover as its author writes it down.
-/

namespace Groundcover

structure BiomeEntry where
  classes : String := ""
  symbols : List Symbol := []
  deriving DecidableEq

structure LayerEntry where
  name : String := ""
  params : LayerParams := {}
  biomes : List BiomeEntry := []
  deriving DecidableEq

structure Manifest where
  library : Option LibraryConfig := none
  legend : Option (List LegendRow) := none
  binding : Option Binding := none
  layers : List LayerEntry := []
  deriving DecidableEq

namespace Manifest

def builtLegend (m : Manifest) : Option Legend := m.legend.map Legend.ofRows

/-- The source of coverage that the manifest describes. -/
def coverage (m : Manifest) : Coverage := ⟨m.builtLegend, m.binding⟩

end Manifest

end Groundcover
