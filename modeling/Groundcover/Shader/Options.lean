/-!
What may vary in generated source besides the land cover: the version of the language, and a prefix
for every generated name.
-/

namespace Groundcover

structure ShaderOptions where
  version : UInt32 := 330
  namePrefix : String := ""
  deriving DecidableEq, Inhabited

/-- The names that generated source declares, which other shader stages call. -/
inductive ShaderName
  | biome
  | biomes
  | getBiome
  | billboard
  | billboards
  | getBillboard
  | biomeIndex
  | coverage
  deriving DecidableEq, Repr

namespace ShaderName

def text : ShaderName → String
  | biome => "Biome"
  | biomes => "biomes"
  | getBiome => "getBiome"
  | billboard => "Billboard"
  | billboards => "billboards"
  | getBillboard => "getBillboard"
  | biomeIndex => "getBiomeIndexOf"
  | coverage => "passesCoverage"

/-- Every name, in the order of the tables and then the functions that classify. -/
def all : List ShaderName :=
  [biome, biomes, getBiome, billboard, billboards, getBillboard, biomeIndex, coverage]

end ShaderName

namespace ShaderOptions

/-- A name as it stands in the source. -/
def ident (o : ShaderOptions) (name : String) : String := o.namePrefix ++ name

/-- A declared name as it stands in the source. -/
def declared (o : ShaderOptions) (name : ShaderName) : String := o.ident name.text

end ShaderOptions

end Groundcover
