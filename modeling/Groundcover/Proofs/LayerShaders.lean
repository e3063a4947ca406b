import Groundcover.Proofs.LandCover
import Groundcover.Proofs.Program
import Groundcover.Proofs.Shader.TableSource
import Groundcover.Proofs.Tables

/-!
The shaders of a layer are made apart from each other and meet at run time: the index function gives
numbers by which rows of the tables are looked up, and rows give numbers of further rows.
-/

namespace Groundcover

/-- An index program gives the number of a biome of its layer, or -1. -/
theorem IndexProgram.evaluate_compile (layer : Layer) (coverage : Option Coverage)
    (h : layer.biomes.length < 0x80000000) (s : Single) :
    (compile layer coverage).value.evaluate s = -1 ∨ ∃ (i : Nat) (biome : Biome),
      (compile layer coverage).value.evaluate s = i ∧ layer.biomes[i]? = some biome := by
  rw [compile_eq]
  cases Coverage.resolve coverage with
  | error reason => exact .inl rfl
  | ok source =>
    rcases evaluate_arms source.legend source.binding s h with ⟨i, hi, ⟨biome, hb, -⟩, -⟩ | ⟨hn, -⟩
    · exact .inr ⟨i, biome, hi, hb⟩
    · exact .inl hn

namespace Layer

theorem Drawable.tables_are_finite {l : Layer} (h : l.Drawable) : (Tables.ofLayer l).IsFinite := by
  rw [Tables.of_layer_eq]
  constructor
  · intro r hr
    obtain ⟨hdensity, hfill⟩ := Tables.biome_records_params l.params 0 l.biomes r hr
    exact ⟨hdensity ▸ h.density.1, hfill ▸ h.fill.1⟩
  · intro r hr
    obtain ⟨⟨b, i⟩, hb, rfl⟩ := List.mem_map.mp hr
    obtain ⟨biome, hbiome, hb⟩ := List.mem_flatMap.mp (List.fst_mem_of_mem_zipIdx hb)
    obtain ⟨hwidth, hheight⟩ := h.sizes biome hbiome b hb
    exact ⟨hwidth.1, hheight.1⟩

theorem tables_source (l : Layer) (coverage : Option Coverage) (o : ShaderOptions) :
    (l.shaders coverage o).value.tables.source = (Tables.ofLayer l).source o := by
  simp only [shaders, tableShader, Tables.compile, Logged.value_bind, Logged.value_pure]

theorem RowFits.shown {l : Layer} {t : Tables} {biome : Biome} {row : BiomeRecord}
    (h : l.RowFits t biome row) : l.RowFits t.shown biome row :=
  ⟨h.count, h.density, h.fill, h.small,
    fun j b hj => shown_rows_get _ (h.billboards j b hj)⟩

end Layer

open Source in
/-- For every layer that a manifest leads to, the answer of the index program is -1 or the number of
a row that was read back from the source of the tables. That row fits the biome of the same number,
so every billboard that is looked up by it exists and belongs to the biome. -/
theorem index_leads_to_own_billboards {σ : Type} (load : ImageLoader (StateT σ Logged))
    (manifest : Manifest) (start : σ) {made : Diagnosed LandCover}
    (hmade : ((LandCover.ofManifest load manifest).run start).value.1 = .ok made)
    {layer : Layer} (hlayer : layer ∈ made.value.layers)
    (hbiomes : layer.biomes.length < 0x80000000) (hbillboards : layer.totalBillboards < 0x80000000)
    (coverage : Option Coverage) (o : ShaderOptions) (s : Single) :
    ∃ t, (Reader.tables o).whole? (layer.shaders coverage o).value.tables.source.toList = some t ∧
      let index := (IndexProgram.compile layer coverage).value.evaluate s
      (index = -1 ∨ ∃ (i : Nat) (biome : Biome) (row : BiomeRecord), index = i ∧
        layer.biomes[i]? = some biome ∧ t.biomes[i]? = some row ∧ layer.RowFits t biome row) := by
  have hdrawable := LandCover.of_manifest_drawable load manifest start made hmade layer hlayer
  rw [Layer.tables_source, Tables.source_reads o hdrawable.tables_are_finite]
  refine ⟨_, rfl, ?_⟩
  rcases IndexProgram.evaluate_compile layer coverage hbiomes s with hnone | ⟨i, biome, hi, hb⟩
  · exact .inl hnone
  · obtain ⟨row, hrow, hfits⟩ := Tables.of_layer_row_fits layer hbillboards hb
    exact .inr ⟨i, biome, row, hi, hb, shown_rows_get _ hrow, hfits.shown⟩

open Source in
/-- The first image cannot be loaded and an icon is not drawn, so the first biome stays empty; a
sample of the second one finds its row. -/
theorem index_leads_to_own_billboards_gap :
    let load : ImageLoader (StateT Nat Logged) := fun _ calls =>
      ⟨(if calls = 0 then .error "missing" else .ok default, calls + 1), []⟩
    let manifest : Manifest :=
      { legend := some [⟨"wood", { min := some .zero }⟩], binding := some ⟨"s", "m"⟩, layers :=
        [{ biomes :=
          [{ classes := "sand", symbols := [.billboard { url := some "a" }, .icon ⟨"i"⟩] },
            { classes := "wood", symbols :=
              [.billboard { url := some "b" }, .billboard { url := some "c" }] }] }] }
    ∃ made, ((LandCover.ofManifest load manifest).run 0).value.1 = .ok made ∧
      ∃ layer ∈ made.value.layers, layer.biomes.length < 0x80000000 ∧
        layer.totalBillboards < 0x80000000 ∧ ∃ t biome row,
          (Reader.tables {}).whole?
              (layer.shaders manifest.coverage {}).value.tables.source.toList = some t ∧
          layer.biomes[1]? = some biome ∧ t.biomes[1]? = some row ∧ layer.RowFits t biome row := by
  intro load manifest
  refine ⟨_, rfl, _, List.mem_cons_self, by decide, by decide, ?_⟩
  obtain ⟨t, hread, hnone | ⟨i, biome, row, hi, hfits⟩⟩ :=
    index_leads_to_own_billboards load manifest 0 rfl List.mem_cons_self (by decide) (by decide)
      (some manifest.coverage) {} .one
  · exact absurd hnone (by decide)
  · have hindex : (i : Int) = 1 := hi.symm.trans (by decide)
    obtain rfl : i = 1 := by omega
    exact ⟨t, biome, row, hread, hfits⟩

end Groundcover
