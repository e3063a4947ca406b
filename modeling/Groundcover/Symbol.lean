import Groundcover.Diagnostic
import Groundcover.Library

/-!
Symbols of a biome. Only billboards are drawn. A billboard gets its image and its size from itself,
else from the resource that it names, else, for the size, from the defaults.
-/

namespace Groundcover

/-- A billboard given by its image or by a resource of the library. -/
structure BillboardSymbol where
  url : Option String := none
  resource : Option String := none
  width : Option Single := none
  height : Option Single := none
  deriving DecidableEq, Inhabited

structure ModelSymbol where
  url : String
  scale : Option Single := none
  deriving DecidableEq, Inhabited

structure IconSymbol where
  url : String
  deriving DecidableEq, Inhabited

inductive Symbol
  | billboard (symbol : BillboardSymbol)
  | model (symbol : ModelSymbol)
  | icon (symbol : IconSymbol)
  deriving DecidableEq

namespace Symbol

def kind : Symbol → SymbolKind
  | billboard _ => .billboard
  | model _ => .model
  | icon _ => .icon

def billboard? : Symbol → Option BillboardSymbol
  | billboard b => some b
  | model _ => none
  | icon _ => none

end Symbol

/-- A billboard whose image and size are determined. -/
structure ResolvedBillboard where
  url : String
  width : Single
  height : Single
  deriving DecidableEq

namespace BillboardSymbol

def defaultWidth : Single := .ofNat 10

def defaultHeight : Single := .ofNat 15

/-- The resource that a symbol names; a name without a resource in the library is a fault. -/
def resource? (b : BillboardSymbol) (library : Option Library) :
    Except Diagnostic (Option Resource) :=
  match b.resource with
  | none => .ok none
  | some name =>
    match library.bind (·.get? name) with
    | some r => .ok (some r)
    | none => .error (.unresolvedBillboard (some name))

/-- Checks the size of a billboard whose image is known. -/
def sized (url : String) (width height : Single) : Except Diagnostic ResolvedBillboard :=
  if width.IsPositive ∧ height.IsPositive then .ok ⟨url, width, height⟩
  else .error (.invalidBillboardSize url width height)

/-- Determines image and size. What the symbol states itself wins over its resource. -/
def resolve (b : BillboardSymbol) (library : Option Library) :
    Except Diagnostic ResolvedBillboard :=
  match b.resource? library with
  | .error d => .error d
  | .ok resource =>
    match b.url.or (resource.map Resource.url) with
    | none => .error (.unresolvedBillboard none)
    | some url =>
      sized url ((b.width.or (resource.map Resource.width)).getD defaultWidth)
        ((b.height.or (resource.map Resource.height)).getD defaultHeight)

end BillboardSymbol

end Groundcover
