import Groundcover.Coverage

/-!
Diagnostics: what was wrong or missing while land cover was configured or a shader generated, none
of it fatal. A diagnostic is logged when it is raised, and never again when lists of diagnostics are
put together.
-/

namespace Groundcover

/-- The kinds of symbols that a biome may list. -/
inductive SymbolKind
  | billboard
  | model
  | icon
  deriving DecidableEq, Repr

def SymbolKind.text : SymbolKind → String
  | billboard => "billboard"
  | model => "model"
  | icon => "icon"

/-- The layer parameters that have a valid range. -/
inductive CheckedParam
  | density
  | fill
  deriving DecidableEq, Repr

def CheckedParam.text : CheckedParam → String
  | density => "density"
  | fill => "fill"

inductive Diagnostic
  | unknownClass (name : String)
  | unboundedPredicate (name : String)
  | unrecognizedSymbol (kind : SymbolKind)
  | unresolvedBillboard (resource : Option String)
  | billboardLoadFailed (url reason : String)
  | invalidBillboardSize (url : String) (width height : Single)
  | invalidLayerParam (layer : String) (param : CheckedParam) (value default : Single)
  | fallback (reason : FallbackReason)
  deriving DecidableEq

namespace Diagnostic

def text : Diagnostic → String
  | unknownClass name => "class \"" ++ name ++ "\" not found in the legend"
  | unboundedPredicate name =>
    "class \"" ++ name ++ "\" found, but no exact/min/max value was set in the legend"
  | unrecognizedSymbol kind => "unrecognized " ++ kind.text ++ " symbol in land cover biome"
  | unresolvedBillboard (some name) =>
    "billboard resource \"" ++ name ++ "\" not found in the library"
  | unresolvedBillboard none => "billboard symbol has neither a url nor a resource"
  | billboardLoadFailed url reason =>
    "failed to load billboard image from \"" ++ url ++ "\": " ++ reason
  | invalidBillboardSize url width height =>
    "billboard \"" ++ url ++ "\" has invalid size " ++ width.text ++ " x " ++ height.text
  | invalidLayerParam layer param value default =>
    "layer \"" ++ layer ++ "\" has invalid " ++ param.text ++ " " ++ value.text ++ "; using "
      ++ default.text
  | fallback reason => reason.text ++ "; generating default coverage predicate"

/-- A warning is about bad configuration; a missing source of coverage is no fault. -/
def isWarning : Diagnostic → Bool
  | fallback _ => false
  | _ => true

def record (d : Diagnostic) : Record :=
  ⟨if d.isWarning then .warn else .info, .diagnostic, d.text⟩

end Diagnostic

/-- Diagnostics in the order they were raised. -/
abbrev Diagnostics := List Diagnostic

namespace Diagnostics

/-- Raises one more diagnostic, which is logged. -/
def push (ds : Diagnostics) (d : Diagnostic) : Logged Diagnostics := ⟨ds ++ [d], [d.record]⟩

/-- Takes over diagnostics that were logged before. -/
def extend (ds more : Diagnostics) : Diagnostics := ds ++ more

def warningCount (ds : Diagnostics) : Nat := ds.countP Diagnostic.isWarning

end Diagnostics

/-- A value and the diagnostics raised on the way to it. -/
structure Diagnosed (α : Type) where
  value : α
  diagnostics : Diagnostics := []

/-- Every diagnostic raised is logged once, in order. -/
def Diagnosed.logged {α : Type} (x : Diagnosed α) : Logged (Diagnosed α) :=
  ⟨x, x.diagnostics.map Diagnostic.record⟩

/-- A computation that raises diagnostics, which join those that were raised before. -/
abbrev Raising : Type → Type := StateT Diagnostics Logged

def Diagnostic.raise (d : Diagnostic) : Raising Unit := fun raised => do
  return ((), ← raised.push d)

/-- What a computation comes to when nothing was raised before. -/
def Raising.diagnosed {α : Type} (x : Raising α) : Logged (Diagnosed α) := do
  let (value, raised) ← x.run []
  return ⟨value, raised⟩

end Groundcover
