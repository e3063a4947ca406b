import Groundcover.Proofs.LayerShaders

/-!
What the shaders of a layer depend on: its name and parameters, and of each biome the classes and
the sizes of its billboards. Images leave no trace in them.
-/

namespace Groundcover

def Billboard.size (b : Billboard) : Single × Single := (b.width, b.height)

def Biome.sizes (b : Biome) : List (Single × Single) := b.billboards.map Billboard.size

def Billboard.resolved (b : Billboard) : ResolvedBillboard := ⟨b.url, b.width, b.height⟩

/-- A biome but for the images of its billboards. -/
structure BiomeOutline where
  classes : List String
  billboards : List ResolvedBillboard

def Biome.outline (b : Biome) : BiomeOutline := ⟨b.classes, b.billboards.map Billboard.resolved⟩

/-- A layer but for the images of its billboards. -/
structure LayerOutline where
  name : String
  params : LayerParams
  library : Option Library
  biomes : List BiomeOutline

def Layer.outline (l : Layer) : LayerOutline :=
  ⟨l.name, l.params, l.library, l.biomes.map Biome.outline⟩

/-- What can be told from one view of things is the same for lists with the same view. -/
theorem map_of_view {α β γ : Type} {view : α → β} {f : α → γ}
    (hf : ∀ a a', view a' = view a → f a' = f a) {items items' : List α}
    (h : items'.map view = items.map view) : items'.map f = items.map f := by
  induction items generalizing items' with
  | nil =>
    rw [List.map_nil, List.map_eq_nil_iff] at h
    rw [h]
  | cons a rest ih =>
    obtain ⟨a', rest', rfl, ha, hrest⟩ := List.map_eq_cons_iff.mp h
    rw [List.map_cons, List.map_cons, hf a a' ha, ih hrest]

namespace Tables

theorem biome_records_of_sizes {biomes biomes' : List Biome}
    (h : biomes'.map Biome.sizes = biomes.map Biome.sizes) (p : LayerParams) (first : Nat) :
    biomeRecords p first biomes' = biomeRecords p first biomes := by
  -- A row depends on all biomes in front of it, but only through the number of their billboards.
  induction biomes generalizing biomes' first with
  | nil =>
    rw [List.map_nil, List.map_eq_nil_iff] at h
    rw [h]
  | cons b rest ih =>
    obtain ⟨b', rest', rfl, hb, hrest⟩ := List.map_eq_cons_iff.mp h
    have hlength : b'.billboards.length = b.billboards.length := by
      simpa [Biome.sizes] using congrArg List.length hb
    rw [biomeRecords, biomeRecords, hlength, ih hrest]

theorem billboard_records_eq (first : Nat) (billboards : List Billboard) :
    billboardRecords first billboards =
      ((billboards.map Billboard.size).zipIdx first).map fun (size, i) => ⟨i, size.1, size.2⟩ := by
  rw [List.zipIdx_map, List.map_map]
  rfl

/-- Tables have the sizes of billboards, and nothing else of them. -/
theorem of_layer_of_sizes {l l' : Layer} (hparams : l'.params = l.params)
    (hsizes : l'.biomes.map Biome.sizes = l.biomes.map Biome.sizes) : ofLayer l' = ofLayer l := by
  have hall (l : Layer) : (l.biomes.flatMap Biome.billboards).map Billboard.size =
      (l.biomes.map Biome.sizes).flatten := by
    rw [List.map_flatMap, ← List.flatMap_def]
    rfl
  rw [of_layer_eq, of_layer_eq, hparams, biome_records_of_sizes hsizes, billboard_records_eq,
    billboard_records_eq, hall, hall, hsizes]

end Tables

namespace Layer

variable (l : Layer) (coverage : Option Coverage) (o : ShaderOptions)

/-- What is read off the coverage shader of each biome, whatever its name, is read off the biome. -/
theorem coverage_shaders_map {α : Type} {g : Shader → α} {g' : Biome → α}
    (h : ∀ b name, g (b.coverageShader name coverage o).value = g' b) :
    (l.coverageShaders coverage o).value.map g = l.biomes.map g' := by
  conv => rhs; rw [← List.zipIdx_map_fst 0 l.biomes]
  rw [coverageShaders, Logged.forList, List.map_map, List.map_map]
  refine List.map_congr_left fun (b, i) _ => ?_
  exact h b _

theorem shader_sources : (l.shaders coverage o).value.all.map Shader.source =
    (Tables.ofLayer l).source o :: (IndexProgram.compile l coverage).value.source o ::
      l.biomes.map fun b => (CoverageProgram.compile b coverage).value.source o := by
  rw [LayerShaders.all, List.map_cons, List.map_cons, l.tables_source]
  congr 2
  exact l.coverage_shaders_map coverage o fun _ _ => rfl

theorem shader_diagnostics : (l.shaders coverage o).value.all.map Shader.diagnostics =
    [] :: (IndexProgram.compile l coverage).diagnostics ::
      l.biomes.map fun b => (CoverageProgram.compile b coverage).diagnostics := by
  rw [LayerShaders.all, List.map_cons, List.map_cons]
  congr 2
  exact l.coverage_shaders_map coverage o fun _ _ => rfl

end Layer

theorem IndexProgram.arms_eq (legend : Legend) (first : Nat) (biomes : List Biome) :
    arms legend first biomes = ((biomes.map Biome.classes).zipIdx first).flatMap fun (classes, i) =>
      (legend.bounds classes).value.map fun bound => ⟨bound, i⟩ := by
  rw [List.zipIdx_map, List.flatMap_map]
  rfl

/-- An index program is made from the classes of the biomes alone. -/
theorem IndexProgram.compile_of_classes {l l' : Layer}
    (h : l'.biomes.map Biome.classes = l.biomes.map Biome.classes) (coverage : Option Coverage) :
    compile l' coverage = compile l coverage := by
  have hfaults (legend : Legend) (biomes : List Biome) :
      (biomes.flatMap fun b => (legend.bounds b.classes).diagnostics) =
        (biomes.map Biome.classes).flatMap fun classes => (legend.bounds classes).diagnostics := by
    rw [List.flatMap_map]
  rw [compile_eq, compile_eq]
  cases Coverage.resolve coverage with
  | error reason => rfl
  | ok source =>
    dsimp only
    rw [arms_eq, arms_eq, hfaults, hfaults, h]

namespace Layer

variable {l l' : Layer} (h : l'.outline = l.outline)
include h

theorem biomes_of_outline : l'.biomes.map Biome.outline = l.biomes.map Biome.outline :=
  congrArg LayerOutline.biomes h

theorem classes_of_outline : l'.biomes.map Biome.classes = l.biomes.map Biome.classes :=
  map_of_view (fun _ _ hb => congrArg BiomeOutline.classes hb) (biomes_of_outline h)

theorem sizes_of_outline : l'.biomes.map Biome.sizes = l.biomes.map Biome.sizes := by
  refine map_of_view (fun b b' hb => ?_) (biomes_of_outline h)
  have hbillboards : b'.billboards.map Billboard.resolved = b.billboards.map Billboard.resolved :=
    congrArg BiomeOutline.billboards hb
  refine map_of_view (fun c c' hc => ?_) hbillboards
  exact congrArg (fun r : ResolvedBillboard => (r.width, r.height)) hc

/-- Layers that agree but for their images have equal shaders. -/
theorem shaders_of_outline (coverage : Option Coverage) (o : ShaderOptions) :
    (l'.shaders coverage o).value = (l.shaders coverage o).value := by
  have hname : l'.name = l.name := congrArg LayerOutline.name h
  have htables : Tables.ofLayer l' = Tables.ofLayer l :=
    Tables.of_layer_of_sizes (congrArg LayerOutline.params h) (sizes_of_outline h)
  have hprogram := IndexProgram.compile_of_classes (classes_of_outline h) coverage
  have hindex (l : Layer) : (l.indexShader coverage o).value =
      ⟨l.name ++ " land cover biome index", (IndexProgram.compile l coverage).value.source o,
        (IndexProgram.compile l coverage).diagnostics⟩ := rfl
  have hcoverage (l : Layer) : (l.coverageShaders coverage o).value =
      (l.biomes.map Biome.classes).zipIdx.map fun (classes, i) =>
        ((⟨classes, []⟩ : Biome).coverageShader
          (l.name ++ " land cover biome " ++ toString i ++ " coverage") coverage o).value := by
    rw [List.zipIdx_map, List.map_map]
    rfl
  simp only [shaders, tableShader, Tables.compile, Logged.value_bind, Logged.value_pure, hindex,
    hcoverage, hname, htables, hprogram, classes_of_outline h]

end Layer

theorem LandCover.generate_of_outlines {cover cover' : LandCover}
    (h : cover'.layers.map Layer.outline = cover.layers.map Layer.outline)
    (coverage : Option Coverage) (o : ShaderOptions) :
    (cover'.generate coverage o).value = (cover.generate coverage o).value :=
  map_of_view (fun _ _ hl => Layer.shaders_of_outline hl coverage o) h

end Groundcover
