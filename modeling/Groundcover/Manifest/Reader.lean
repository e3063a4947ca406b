import Groundcover.Document.Record
import Groundcover.Manifest

/-!
Manifests as RON documents. Every field may be left out, except those without which a row of the
legend, a resource, a binding, a model or an icon would mean nothing.
-/

namespace Groundcover

open Document Document.Reader

namespace LegendRow

def fields : List (RecordField LegendRow) :=
  [.required "class" text fun v r => { r with className := v },
    .free "exact_value" (option (plain single)) fun v r =>
      { r with predicate := { r.predicate with exact := v } },
    .free "min_value" (option (plain single)) fun v r =>
      { r with predicate := { r.predicate with min := v } },
    .free "max_value" (option (plain single)) fun v r =>
      { r with predicate := { r.predicate with max := v } }]

def reader (bare : Bool) : Reader LegendRow := record "LegendEntry" fields ⟨"", {}⟩ bare

end LegendRow

namespace Resource

def fields : List (RecordField Resource) :=
  [.required "name" text fun v r => { r with name := v },
    .required "url" text fun v r => { r with url := v },
    .required "width" single fun v r => { r with width := v },
    .required "height" single fun v r => { r with height := v }]

def reader (bare : Bool) : Reader Resource :=
  record "BillboardResource" fields ⟨"", "", .zero, .zero⟩ bare

end Resource

namespace LibraryConfig

def fields : List (RecordField LibraryConfig) :=
  [.free "name" text fun v c => { c with name := v },
    .free "resources" (Reader.list (Resource.reader false)) fun v c => { c with resources := v }]

def reader (bare : Bool) : Reader LibraryConfig := record "LibraryConfig" fields {} bare

end LibraryConfig

namespace Binding

def fields : List (RecordField Binding) :=
  [.required "sampler" text fun v b => { b with sampler := v },
    .required "matrix" text fun v b => { b with matrix := v }]

def reader (bare : Bool) : Reader Binding := record "CoverageBinding" fields ⟨"", ""⟩ bare

end Binding

namespace BillboardSymbol

def fields : List (RecordField BillboardSymbol) :=
  [.free "url" (option (plain text)) fun v b => { b with url := v },
    .free "resource" (option (plain text)) fun v b => { b with resource := v },
    .free "width" (option (plain single)) fun v b => { b with width := v },
    .free "height" (option (plain single)) fun v b => { b with height := v }]

def reader (bare : Bool) : Reader BillboardSymbol := record "BillboardSymbol" fields {} bare

end BillboardSymbol

namespace ModelSymbol

def fields : List (RecordField ModelSymbol) :=
  [.required "url" text fun v m => { m with url := v },
    .free "scale" (option (plain single)) fun v m => { m with scale := v }]

def reader (bare : Bool) : Reader ModelSymbol := record "ModelSymbol" fields ⟨"", none⟩ bare

end ModelSymbol

namespace IconSymbol

def fields : List (RecordField IconSymbol) := [.required "url" text fun v _ => ⟨v⟩]

def reader (bare : Bool) : Reader IconSymbol := record "IconSymbol" fields ⟨""⟩ bare

end IconSymbol

namespace Symbol

def reader : Reader Symbol :=
  variant
    [("Billboard", fun bare => do return .billboard (← BillboardSymbol.reader bare)),
      ("Model", fun bare => do return .model (← ModelSymbol.reader bare)),
      ("Icon", fun bare => do return .icon (← IconSymbol.reader bare))]

end Symbol

namespace LayerParams

def fields : List (RecordField LayerParams) :=
  [.free "lod" word32 fun v p => { p with lod := v },
    .free "max_distance" single fun v p => { p with maxDistance := v },
    .free "density" single fun v p => { p with density := v },
    .free "fill" single fun v p => { p with fill := v },
    .free "wind" single fun v p => { p with wind := v },
    .free "brightness" single fun v p => { p with brightness := v },
    .free "contrast" single fun v p => { p with contrast := v }]

def reader (bare : Bool) : Reader LayerParams := record "LayerParams" fields {} bare

end LayerParams

namespace BiomeEntry

def fields : List (RecordField BiomeEntry) :=
  [.free "classes" text fun v b => { b with classes := v },
    .free "symbols" (Reader.list Symbol.reader) fun v b => { b with symbols := v }]

def reader (bare : Bool) : Reader BiomeEntry := record "BiomeEntry" fields {} bare

end BiomeEntry

namespace LayerEntry

def fields : List (RecordField LayerEntry) :=
  [.free "name" text fun v l => { l with name := v },
    .free "params" (LayerParams.reader false) fun v l => { l with params := v },
    .free "biomes" (Reader.list (BiomeEntry.reader false)) fun v l => { l with biomes := v }]

def reader (bare : Bool) : Reader LayerEntry := record "LayerEntry" fields {} bare

end LayerEntry

namespace Manifest

def fields : List (RecordField Manifest) :=
  [.free "library" (option LibraryConfig.reader) fun v m => { m with library := v },
    .free "legend" (option (plain (Reader.list (LegendRow.reader false)))) fun v m =>
      { m with legend := v },
    .free "coverage" (option Binding.reader) fun v m => { m with binding := v },
    .free "layers" (Reader.list (LayerEntry.reader false)) fun v m => { m with layers := v }]

def reader (bare : Bool) : Reader Manifest := record "LandCoverManifest" fields {} bare

/-- The manifest that a document holds. -/
def ofText (text : String) : Except Error Manifest := Document.read (reader false) text

end Manifest

end Groundcover
