import Groundcover.Program
import Groundcover.Shader.TableSource

/-!
The source of classification programs: a function that samples the classification layer and tries
the bounds in order. A program that cannot classify is written as a default function with the same
signature.
-/

namespace Groundcover

namespace ProgramSource

/-- The variable that holds the sample. -/
def sampleName : String := "value"

/-- Version and uniforms. -/
def headerLines (o : ShaderOptions) (b : Binding) : List String :=
  [o.versionLine, "uniform sampler2D " ++ b.sampler ++ ";", "uniform mat4 " ++ b.matrix ++ ";"]

def signature (result name : String) : String := result ++ " " ++ name ++ "(in vec4 coords) \x7b"

def sampleLine (b : Binding) : String :=
  "    float " ++ sampleName ++ " = textureLod(" ++ b.sampler ++ ", (" ++ b.matrix
    ++ " * coords).st, 0.0).r;"

def armLine (bound : Bound) (result : String) : String :=
  "    " ++ bound.guarded sampleName ("return " ++ result ++ ";")

def returnLine (result : String) : String := "    return " ++ result ++ ";"

/-- The statements of the index function. -/
def indexBody (arms : List Arm) : List String :=
  arms.map (fun arm => armLine arm.bound (toString arm.result)) ++ [returnLine "-1"]

/-- The statements of a coverage function that tests bounds. -/
def coverageBody (bounds : List Bound) : List String :=
  bounds.map (fun bound => armLine bound "true") ++ [returnLine "false"]

/-- A function that always gives one answer. -/
def defaultLines (o : ShaderOptions) (type name answer : String) : List String :=
  [o.versionLine, signature type name ++ " return " ++ answer ++ "; \x7d"]

end ProgramSource

open ProgramSource

namespace ShaderOptions

/-- The index function without coverage: no biome anywhere. -/
def defaultIndex (o : ShaderOptions) : String :=
  unlines (defaultLines o "int" (o.declared .biomeIndex) "-1")

/-- The coverage function without coverage: vegetation everywhere. -/
def defaultCoverage (o : ShaderOptions) : String :=
  unlines (defaultLines o "bool" (o.declared .coverage) "true")

end ShaderOptions

namespace IndexProgram

def source (o : ShaderOptions) : IndexProgram → String
  | fallback _ => o.defaultIndex
  | lookup b arms =>
    unlines (headerLines o b ++ signature "int" (o.declared .biomeIndex) :: sampleLine b
      :: indexBody arms ++ ["\x7d"])

end IndexProgram

namespace CoverageProgram

def source (o : ShaderOptions) : CoverageProgram → String
  | fallback _ => o.defaultCoverage
  | acceptAll b =>
    unlines (headerLines o b ++
      [signature "bool" (o.declared .coverage), returnLine "true", "\x7d"])
  | test b bounds =>
    unlines (headerLines o b ++ signature "bool" (o.declared .coverage) :: sampleLine b
      :: coverageBody bounds ++ ["\x7d"])

end CoverageProgram

end Groundcover
