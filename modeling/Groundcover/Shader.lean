import Groundcover.Fingerprint
import Groundcover.Shader.ProgramSource

/-!
Generated shaders: source with a name, a fingerprint and the diagnostics raised on the way. Equal
land cover gives equal source, so the fingerprint of the source serves as its key.
-/

namespace Groundcover

structure Shader where
  name : String
  source : String
  diagnostics : Diagnostics := []
  deriving DecidableEq

def Shader.fingerprint (s : Shader) : UInt64 := Fingerprint.ofText s.source

/-- The shader of a program with the diagnostics that compiling it raised. -/
def Raising.shader {α : Type} (name : String) (source : α → String) (x : Raising α) :
    Logged Shader := do
  let made ← x.diagnosed
  return ⟨name, source made.value, made.diagnostics⟩

/-- Every shader of a layer. -/
structure LayerShaders where
  layer : String
  tables : Shader
  index : Shader
  coverage : List Shader
  deriving DecidableEq

/-- The shaders in order, tables first and the biomes last. -/
def LayerShaders.all (s : LayerShaders) : List Shader := s.tables :: s.index :: s.coverage

namespace Biome

/-- The coverage function of a biome, under a name for readers. -/
def coverageShader (b : Biome) (name : String) (coverage : Option Coverage) (o : ShaderOptions) :
    Logged Shader :=
  (CoverageProgram.build b coverage).shader name (CoverageProgram.source o)

/-- The name of a coverage function outside of any layer. -/
def shaderName : String := "land cover coverage predicate"

end Biome

namespace Layer

def tableShader (l : Layer) (o : ShaderOptions) : Logged Shader := do
  let t ← Tables.compile l
  return ⟨l.name ++ " land cover tables", t.source o, []⟩

def indexShader (l : Layer) (coverage : Option Coverage) (o : ShaderOptions) : Logged Shader :=
  (IndexProgram.build l coverage).shader (l.name ++ " land cover biome index")
    (IndexProgram.source o)

def coverageShaders (l : Layer) (coverage : Option Coverage) (o : ShaderOptions) :
    Logged (List Shader) :=
  Logged.forList
    (fun (b, i) =>
      b.coverageShader (l.name ++ " land cover biome " ++ toString i ++ " coverage") coverage o)
    l.biomes.zipIdx

def shaders (l : Layer) (coverage : Option Coverage) (o : ShaderOptions) :
    Logged LayerShaders := do
  let tables ← l.tableShader o
  let index ← l.indexShader coverage o
  let perBiome ← l.coverageShaders coverage o
  return ⟨l.name, tables, index, perBiome⟩

end Layer

end Groundcover
