import Groundcover.Single.Text

/-!
The numeric test of a legend row, and the one check that it comes to. `Bound.admits` decides the
check for a sample; `Bound.condition` is the same check in shader source.
-/

namespace Groundcover

/-- A test against a sampled classification value, with any of its three values set. -/
structure ValuePredicate where
  exact : Option Single := none
  min : Option Single := none
  max : Option Single := none
  deriving DecidableEq, Inhabited

/-- A check that can be put into a shader. -/
inductive Bound
  | exact (value : Single)
  | range (min max : Single)
  | min (value : Single)
  | max (value : Single)
  deriving DecidableEq, Inhabited

namespace ValuePredicate

/-- A value that is not finite counts as not set. -/
def finite (v : Option Single) : Option Single := v.filter Single.isFinite

/-- The check that a predicate comes to: an exact value wins over the limits. -/
def bound? (p : ValuePredicate) : Option Bound :=
  match finite p.exact, finite p.min, finite p.max with
  | some v, _, _ => some (.exact v)
  | none, some low, some high => some (.range low high)
  | none, some low, none => some (.min low)
  | none, none, some high => some (.max high)
  | none, none, none => none

end ValuePredicate

namespace Bound

/-- Whether a sample passes the check. -/
def admits (sample : Single) : Bound → Bool
  | exact v => sample.Equals v
  | range low high => low.AtMost sample ∧ sample.AtMost high
  | min low => low.AtMost sample
  | max high => sample.AtMost high

/-- The check in shader source, on the variable that holds the sample. -/
def condition (sample : String) : Bound → String
  | exact v => sample ++ " == " ++ v.literal
  | range low high => sample ++ " >= " ++ low.literal ++ " && " ++ sample ++ " <= " ++ high.literal
  | min low => sample ++ " >= " ++ low.literal
  | max high => sample ++ " <= " ++ high.literal

/-- A statement that runs when the check passes. -/
def guarded (sample action : String) (b : Bound) : String :=
  "if (" ++ b.condition sample ++ ") " ++ action

end Bound

end Groundcover
