import Groundcover.Manifest
import Groundcover.Shader

/-!
Land cover built from a manifest. A symbol that is no billboard, cannot be resolved or whose image
cannot be loaded is left out, with one diagnostic; what comes after it moves up.
-/

namespace Groundcover

structure LandCover where
  library : Option Library := none
  layers : List Layer := []
  deriving DecidableEq

/-- A way to get the image of a url, or the reason why there is none. -/
abbrev ImageLoader (m : Type → Type) : Type := String → m (Except String Image)

variable {m : Type → Type} [Monad m]

/-- The billboard of a symbol. Its image is asked for only when all else about it is in order. -/
def Symbol.place (load : ImageLoader m) (library : Option Library) (s : Symbol) :
    m (Except Diagnostic Billboard) :=
  match s.billboard? with
  | none => return .error (.unrecognizedSymbol s.kind)
  | some b =>
    match b.resolve library with
    | .error d => return .error d
    | .ok r => do
      match ← load r.url with
      | .ok image => return .ok ⟨r.url, image, r.width, r.height⟩
      | .error reason => return .error (.billboardLoadFailed r.url reason)

/-- The billboards among what became of symbols. -/
def placed (outcomes : List (Except Diagnostic Billboard)) : List Billboard :=
  outcomes.filterMap Except.toOption

/-- The faults among what became of symbols. -/
def faults (outcomes : List (Except Diagnostic Billboard)) : Diagnostics :=
  outcomes.filterMap fun
    | .ok _ => none
    | .error d => some d

variable [Journal m]

/-- A symbol's billboard, or its fault, which is logged. -/
def Symbol.placeLogged (load : ImageLoader m) (library : Option Library) (s : Symbol) :
    m (Except Diagnostic Billboard) := do
  let outcome ← s.place load library
  if let .error d := outcome then Journal.note d.record
  return outcome

def Biome.ofEntry (load : ImageLoader m) (library : Option Library) (entry : BiomeEntry) :
    m (Diagnosed Biome) := do
  let outcomes ← entry.symbols.mapM (Symbol.placeLogged load library)
  return ⟨⟨ClassList.names entry.classes, placed outcomes⟩, faults outcomes⟩

/-- What is raised for the parameters of a layer. -/
def LayerEntry.paramFaults (entry : LayerEntry) : Diagnostics :=
  entry.params.resets.map fun r => .invalidLayerParam entry.name r.param r.rejected r.default

/-- A layer with its parameters in range. Faults of its symbols come before those of parameters. -/
def Layer.ofEntry (load : ImageLoader m) (library : Option Library) (entry : LayerEntry) :
    m (Diagnosed Layer) := do
  let biomes ← entry.biomes.mapM (Biome.ofEntry load library)
  entry.paramFaults.forM fun d => Journal.note d.record
  Journal.note ⟨.info, .landCover, "Configured land cover layer \"" ++ entry.name ++ "\""⟩
  return ⟨⟨entry.name, entry.params.sanitized, biomes.map Diagnosed.value, library⟩,
    biomes.flatMap Diagnosed.diagnostics ++ entry.paramFaults⟩

namespace LandCover

def ofLayers (load : ImageLoader m) (library : Option Library) (entries : List LayerEntry) :
    m (Diagnosed LandCover) := do
  if entries.isEmpty then
    Journal.note ⟨.warn, .landCover, "No land cover layers defined; no land cover to render"⟩
  let layers ← entries.mapM (Layer.ofEntry load library)
  return ⟨⟨library, layers.map Diagnosed.value⟩, layers.flatMap Diagnosed.diagnostics⟩

/-- The land cover of a manifest. Only a library that repeats a name prevents it. -/
def ofManifest (load : ImageLoader m) (manifest : Manifest) :
    m (Except DuplicateResource (Diagnosed LandCover)) := do
  match manifest.library with
  | none => return .ok (← ofLayers load none manifest.layers)
  | some config =>
    match ← (Library.ofConfig config).tell with
    | .error e => return .error e
    | .ok library => return .ok (← ofLayers load (some library) manifest.layers)

/-- The land cover of a manifest. What is raised on the way joins what was raised before. -/
def configure (load : ImageLoader m) (manifest : Manifest) (raised : Diagnostics) :
    m (Except DuplicateResource LandCover × Diagnostics) := do
  match ← ofManifest load manifest with
  | .error e => return (.error e, raised)
  | .ok made => return (.ok made.value, Diagnostics.extend raised made.diagnostics)

/-- Every shader of every layer. -/
def generate (cover : LandCover) (coverage : Option Coverage) (o : ShaderOptions) :
    Logged (List LayerShaders) :=
  Logged.forList (fun l => l.shaders coverage o) cover.layers

end LandCover

end Groundcover
