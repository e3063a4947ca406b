import Groundcover.Proofs.Configuration

/-!
Land cover that was built from a manifest can be drawn: whatever the manifest says and the loader
answers, the parameters and the sizes that get into shaders are in range.
-/

namespace Groundcover

/-- A size that a quad can have. -/
def Billboard.HasSize (b : Billboard) : Prop := b.width.IsPositive ∧ b.height.IsPositive

/-- The numbers of a layer that tables are made from are in range. -/
structure Layer.Drawable (l : Layer) : Prop where
  density : l.params.HasDensity
  fill : l.params.HasFill
  sizes : ∀ biome ∈ l.biomes, ∀ b ∈ biome.billboards, b.HasSize

namespace LayerParams

theorem sanitized_has_density (p : LayerParams) : p.sanitized.HasDensity := by
  have hdensity : p.sanitized.density =
      if p.HasDensity then p.density else ({} : LayerParams).density := rfl
  rw [HasDensity, hdensity]
  split
  · assumption
  · decide

theorem sanitized_has_fill (p : LayerParams) : p.sanitized.HasFill := by
  have hfill : p.sanitized.fill = if p.HasFill then p.fill else ({} : LayerParams).fill := rfl
  rw [HasFill, hfill]
  split
  · assumption
  · decide

end LayerParams

/-- Only a billboard whose size is in range is resolved. -/
theorem BillboardSymbol.resolve_has_size {b : BillboardSymbol} {library : Option Library}
    {r : ResolvedBillboard} (h : b.resolve library = .ok r) :
    r.width.IsPositive ∧ r.height.IsPositive := by
  unfold resolve at h
  split at h
  · cases h
  · split at h
    · cases h
    · unfold sized at h
      split at h
      · rename_i hsize
        cases h
        exact hsize
      · cases h

section Entries

variable {library : Option Library}

theorem Symbol.Meets.has_size {s : Symbol} {fate : Fate} (h : s.Meets library fate) :
    ∀ b ∈ fate.billboard?, b.HasSize := by
  intro b hb
  cases fate with
  | placed r image =>
    cases hb
    obtain ⟨_, -, hr⟩ := h
    exact BillboardSymbol.resolve_has_size hr
  | _ => cases hb

theorem BiomeEntry.Becomes.has_sizes {entry : BiomeEntry} {made : Configured Biome}
    (h : entry.Becomes library made) : ∀ b ∈ made.value.billboards, b.HasSize := by
  obtain ⟨-, -, fates, hfates, hbillboards, -, -⟩ := h
  intro b hb
  rw [hbillboards] at hb
  obtain ⟨fate, hfate, hb⟩ := List.mem_filterMap.mp hb
  obtain ⟨s, -, hmeets⟩ := exists_of_forall₂ hfates hfate
  exact hmeets.has_size b hb

theorem LayerEntry.Becomes.drawable {entry : LayerEntry} {made : Configured Layer}
    (h : entry.Becomes library made) : made.value.Drawable := by
  obtain ⟨-, hparams, -, biomes, hbiomes, hvalues, -, -⟩ := h
  refine ⟨?_, ?_, ?_⟩
  · rw [hparams]
    exact entry.params.sanitized_has_density
  · rw [hparams]
    exact entry.params.sanitized_has_fill
  · intro biome hbiome
    rw [hvalues] at hbiome
    obtain ⟨source, hsource, rfl⟩ := List.mem_map.mp hbiome
    obtain ⟨entry, -, hbecomes⟩ := exists_of_forall₂ hbiomes hsource
    exact hbecomes.has_sizes

end Entries

namespace LandCover

variable {σ : Type} (load : ImageLoader (StateT σ Logged)) (manifest : Manifest) (start : σ)
  (made : Diagnosed LandCover) (hmade : ((ofManifest load manifest).run start).value.1 = .ok made)
include hmade

theorem layers_of_manifest : ∃ layers : List (Configured Layer),
    made = assembled manifest.openedLibrary layers ∧
      List.Forall₂ (LayerEntry.Becomes manifest.openedLibrary) manifest.layers layers := by
  have hrun : Execution.exec (ofManifest load manifest) start =
      (.ok made, ((ofManifest load manifest).run start).value.2) := Prod.ext hmade rfl
  obtain ⟨layers, hassembled, hlayers, -⟩ := of_manifest_ok hrun
  exact ⟨layers, hassembled, hlayers⟩

/-- Every layer of a land cover that was built from a manifest can be drawn. -/
theorem of_manifest_drawable : ∀ l ∈ made.value.layers, l.Drawable := by
  obtain ⟨layers, rfl, hlayers⟩ := layers_of_manifest load manifest start made hmade
  intro l hl
  obtain ⟨configured, hconfigured, rfl⟩ := List.mem_map.mp hl
  obtain ⟨entry, -, hbecomes⟩ := exists_of_forall₂ hlayers hconfigured
  exact hbecomes.drawable

end LandCover

end Groundcover
