import Groundcover.Image
import Groundcover.Symbol

/-!
Layers of land cover: biomes in order, each with the classes it belongs to and the billboards that
grow in it. Biomes and billboards are numbered by position, so their order matters.
-/

namespace Groundcover

/-- A textured quad of vegetation. -/
structure Billboard where
  url : String
  image : Image
  width : Single
  height : Single
  deriving DecidableEq, Inhabited

/-- Classes that share billboards. A biome without classes covers anything. -/
structure Biome where
  classes : List String := []
  billboards : List Billboard := []
  deriving DecidableEq, Inhabited

/-- What all biomes of a layer share. -/
structure LayerParams where
  lod : UInt32 := 14
  maxDistance : Single := .ofNat 1000
  density : Single := .one
  fill : Single := .one
  wind : Single := .zero
  brightness : Single := .one
  contrast : Single := .zero
  deriving DecidableEq, Inhabited

/-- A parameter that was put back to its default. -/
structure ParamReset where
  param : CheckedParam
  rejected : Single
  default : Single
  deriving DecidableEq

namespace LayerParams

/-- A density is finite and at least zero. -/
def HasDensity (p : LayerParams) : Prop :=
  p.density.isFinite = true ∧ Single.zero.AtMost p.density

/-- A fill is a fraction between zero and one. -/
def HasFill (p : LayerParams) : Prop :=
  p.fill.isFinite = true ∧ Single.zero.AtMost p.fill ∧ p.fill.AtMost .one

instance (p : LayerParams) : Decidable p.HasDensity := inferInstanceAs (Decidable (_ ∧ _))

instance (p : LayerParams) : Decidable p.HasFill := inferInstanceAs (Decidable (_ ∧ _ ∧ _))

/-- The parameters with density and fill in range. -/
def sanitized (p : LayerParams) : LayerParams :=
  { p with
    density := if p.HasDensity then p.density else ({} : LayerParams).density
    fill := if p.HasFill then p.fill else ({} : LayerParams).fill }

/-- What `sanitized` replaces, density before fill. -/
def resets (p : LayerParams) : List ParamReset :=
  (if p.HasDensity then [] else [⟨.density, p.density, ({} : LayerParams).density⟩]) ++
    if p.HasFill then [] else [⟨.fill, p.fill, ({} : LayerParams).fill⟩]

end LayerParams

/-- Biomes in index order with their parameters. -/
structure Layer where
  name : String
  params : LayerParams := {}
  biomes : List Biome := []
  library : Option Library := none
  deriving DecidableEq

namespace Layer

def totalBillboards (l : Layer) : Nat := l.biomes.foldr (fun b n => b.billboards.length + n) 0

end Layer

namespace ClassList

/-- A name that is done, unless it is empty. -/
def finished (name : List Char) : List (List Char) := if name.isEmpty then [] else [name]

/-- Names from a place inside the list, with the part of a name read so far. -/
def namesFrom (quoted : Bool) (name : List Char) : List Char → List (List Char)
  | [] => finished name
  | c :: rest =>
    if c = '"' then namesFrom (!quoted) name rest
    else if c = ' ' ∧ quoted = false then finished name ++ namesFrom false [] rest
    else namesFrom quoted (name ++ [c]) rest

/--
The names in a list of classes. Spaces separate them, double quotes hold a name with spaces
together, and empty names are left out.
-/
def names (text : String) : List String := (namesFrom false [] text.toList).map String.ofList

end ClassList

end Groundcover
