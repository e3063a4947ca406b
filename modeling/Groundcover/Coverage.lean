import Groundcover.Legend

/-!
Where classification values come from. Shaders can classify only when a source has both a legend
and a classification layer; otherwise the first of the three that is missing is the reason for a
default function.
-/

namespace Groundcover

/-- The uniforms through which a shader samples the classification layer. -/
structure Binding where
  sampler : String
  matrix : String
  deriving DecidableEq, Inhabited

/-- A source of classification values, as far as it is set up. -/
structure Coverage where
  legend : Option Legend := none
  binding : Option Binding := none
  deriving DecidableEq

/-- Why a default function takes the place of a classification. -/
inductive FallbackReason
  | noCoverage
  | noLegend
  | noClassificationLayer
  deriving DecidableEq, Repr

def FallbackReason.text : FallbackReason → String
  | noCoverage => "no coverage"
  | noLegend => "no legend"
  | noClassificationLayer => "no classification layer"

/-- A source with a legend and a classification layer. -/
structure ResolvedCoverage where
  legend : Legend
  binding : Binding
  deriving DecidableEq

namespace Coverage

/-- Asks for the source, its legend and its layer, in that order. -/
def resolve : Option Coverage → Except FallbackReason ResolvedCoverage
  | none => .error .noCoverage
  | some ⟨none, _⟩ => .error .noLegend
  | some ⟨some _, none⟩ => .error .noClassificationLayer
  | some ⟨some legend, some binding⟩ => .ok ⟨legend, binding⟩

end Coverage

end Groundcover
