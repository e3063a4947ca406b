import Groundcover.Layer

/-!
The tables of a layer. Billboards are numbered through all biomes; a biome records the number of its
first billboard and how many it has.
-/

namespace Groundcover

/-- The row of a biome. -/
structure BiomeRecord where
  first : Nat
  count : Nat
  density : Single
  fill : Single
  deriving DecidableEq

/-- The row of a billboard; its index is its layer in the texture array. -/
structure BillboardRecord where
  index : Nat
  width : Single
  height : Single
  deriving DecidableEq

structure Tables where
  biomes : List BiomeRecord := []
  billboards : List BillboardRecord := []
  deriving DecidableEq

namespace Tables

/-- Tables as they are filled, with the number that the next billboard gets. -/
structure Filling extends Tables where
  next : Nat := 0

namespace Filling

/-- Adds the row of a billboard, which takes the next number. -/
def addBillboard (f : Filling) (b : Billboard) : Filling :=
  { f with billboards := f.billboards ++ [⟨f.next, b.width, b.height⟩], next := f.next + 1 }

/-- Adds the row of a biome and then those of its billboards. -/
def addBiome (p : LayerParams) (f : Filling) (b : Biome) : Filling :=
  b.billboards.foldl addBillboard
    { f with biomes := f.biomes ++ [⟨f.next, b.billboards.length, p.density, p.fill⟩] }

end Filling

/-- The tables of a layer, which one pass over its biomes fills. -/
def ofLayer (l : Layer) : Tables := (l.biomes.foldl (Filling.addBiome l.params) {}).toTables

/-- The tables of a layer, with a record of their sizes. -/
def compile (l : Layer) : Logged Tables :=
  let t := ofLayer l
  ⟨t, [⟨.debug, .tables, "compiled land cover tables for \"" ++ l.name ++ "\": "
    ++ toString t.biomes.length ++ " biomes, " ++ toString t.billboards.length ++ " billboards"⟩]⟩

end Tables

end Groundcover
