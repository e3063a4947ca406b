import Groundcover.Layer

/-!
Classification programs. The index program of a layer tells which biome a sample belongs to, and the
coverage program of a biome whether a sample belongs to it. Both come from the legend's bounds for
the classes of the biomes, in the order of biomes, classes and predicates; the first bound that
admits a sample decides the index. Compiling raises each fault when it comes to it.
-/

namespace Groundcover

/-- A check and the answer given when it passes. -/
structure Arm where
  bound : Bound
  result : Nat
  deriving DecidableEq

/-- Which biome a sample belongs to. -/
inductive IndexProgram
  | fallback (reason : FallbackReason)
  | lookup (binding : Binding) (arms : List Arm)
  deriving DecidableEq

/-- Whether a sample belongs to one biome. -/
inductive CoverageProgram
  | fallback (reason : FallbackReason)
  | acceptAll (binding : Binding)
  | test (binding : Binding) (bounds : List Bound)
  deriving DecidableEq

namespace IndexProgram

/-- A result as a shader returns it: 32 bits with a sign. -/
def asInt32 (n : Nat) : Int := Int.bmod n 0x100000000

/-- The answer of the first arm that admits the sample, and -1 without one. -/
def evaluate (sample : Single) : IndexProgram → Int
  | fallback _ => -1
  | lookup _ arms =>
    match arms.find? fun arm => arm.bound.admits sample with
    | some arm => asInt32 arm.result
    | none => -1

end IndexProgram

namespace CoverageProgram

def evaluate (sample : Single) : CoverageProgram → Bool
  | fallback _ => true
  | acceptAll _ => true
  | test _ bounds => bounds.any fun b => b.admits sample

end CoverageProgram

namespace Legend

/-- The bounds of predicates of a class. One without a bound is a fault. -/
def predicateBounds (name : String) : List ValuePredicate → Raising (List Bound)
  | [] => return []
  | p :: rest => do
    match p.bound? with
    | some bound => return bound :: (← predicateBounds name rest)
    | none =>
      Diagnostic.raise (.unboundedPredicate name)
      predicateBounds name rest

/-- The bounds of a class, in the order of its predicates. That the legend lacks it is a fault. -/
def collectClass (l : Legend) (name : String) : Raising (List Bound) := do
  match l.class? name with
  | none =>
    Diagnostic.raise (.unknownClass name)
    return []
  | some c => predicateBounds name c.predicates

/-- The bounds of several classes, one class after the other. -/
def collect (l : Legend) : List String → Raising (List Bound)
  | [] => return []
  | name :: rest => do
    let bounds ← l.collectClass name
    return bounds ++ (← l.collect rest)

end Legend

namespace IndexProgram

/-- The arms of biomes, the first of which has the number `first`. -/
def collectArms (l : Legend) (first : Nat) : List Biome → Raising (List Arm)
  | [] => return []
  | b :: rest => do
    let bounds ← l.collect b.classes
    return bounds.map (fun bound => ⟨bound, first⟩) ++ (← collectArms l (first + 1) rest)

/-- The program of a layer, raising what keeps biomes from being told apart. -/
def build (layer : Layer) (coverage : Option Coverage) : Raising IndexProgram := do
  match Coverage.resolve coverage with
  | .error reason =>
    Diagnostic.raise (.fallback reason)
    return .fallback reason
  | .ok source => return .lookup source.binding (← collectArms source.legend 0 layer.biomes)

def compile (layer : Layer) (coverage : Option Coverage) : Diagnosed IndexProgram :=
  (build layer coverage).diagnosed.value

end IndexProgram

namespace CoverageProgram

/-- The program of a biome, raising what keeps it from being recognized. -/
def build (biome : Biome) (coverage : Option Coverage) : Raising CoverageProgram := do
  match Coverage.resolve coverage with
  | .error reason =>
    Diagnostic.raise (.fallback reason)
    return .fallback reason
  | .ok source =>
    if biome.classes.isEmpty then return .acceptAll source.binding
    else return .test source.binding (← source.legend.collect biome.classes)

def compile (biome : Biome) (coverage : Option Coverage) : Diagnosed CoverageProgram :=
  (build biome coverage).diagnosed.value

end CoverageProgram

end Groundcover
