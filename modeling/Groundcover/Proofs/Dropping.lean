import Groundcover.Proofs.Warnings

/-!
Symbols that are left out leave nothing behind but their diagnostics. When a loader does not depend
on what it was asked before, land cover can be built again without the symbols that raised
something, and comes out the same.
-/

namespace Groundcover

open Execution Diagnostics

section Definitions

variable {m : Type → Type} [Monad m] [Journal m] (load : ImageLoader m) (library : Option Library)

/-- The symbol itself, unless something is raised when it is placed. -/
def Symbol.kept? (s : Symbol) : m (Option Symbol) := do
  match ← s.placeLogged load library with
  | .ok _ => return some s
  | .error _ => return none

def BiomeEntry.kept (entry : BiomeEntry) : m BiomeEntry := do
  let symbols ← entry.symbols.mapM (Symbol.kept? load library)
  return { entry with symbols := symbols.filterMap id }

def LayerEntry.kept (entry : LayerEntry) : m LayerEntry := do
  let biomes ← entry.biomes.mapM (BiomeEntry.kept load library)
  return { entry with biomes := biomes }

/-- The manifest without the symbols that raise something, all of them placed one
after the other. -/
def Manifest.kept (manifest : Manifest) : m Manifest := do
  let layers ← manifest.layers.mapM (LayerEntry.kept load manifest.openedLibrary)
  return { manifest with layers := layers }

end Definitions

/-- A diagnostic about a parameter of a layer, and not about one of its symbols. -/
def Diagnostic.isAboutParam : Diagnostic → Bool
  | invalidLayerParam .. => true
  | _ => false

section Sifting

variable (readable : String → Bool) (library : Option Library)

def BiomeEntry.sifted (entry : BiomeEntry) : BiomeEntry :=
  { entry with symbols := entry.symbols.filter (·.isDrawn readable library) }

def LayerEntry.sifted (entry : LayerEntry) : LayerEntry :=
  { entry with biomes := entry.biomes.map (BiomeEntry.sifted readable library) }

def Manifest.sifted (manifest : Manifest) : Manifest :=
  { manifest with
    layers := manifest.layers.map (LayerEntry.sifted readable manifest.openedLibrary) }

def BiomeEntry.outline (entry : BiomeEntry) : BiomeOutline :=
  ⟨ClassList.names entry.classes, entry.symbols.filterMap (·.drawn? readable library)⟩

def LayerEntry.outline (entry : LayerEntry) : LayerOutline :=
  ⟨entry.name, entry.params.sanitized, library,
    entry.biomes.map (BiomeEntry.outline readable library)⟩

variable {readable library}

/-- Without the symbols that are not drawn, an entry leads to the same biome. -/
theorem BiomeEntry.sifted_outline (entry : BiomeEntry) :
    (entry.sifted readable library).outline readable library = entry.outline readable library := by
  rw [outline, outline, sifted, List.filterMap_filter]
  congr 1
  refine List.filterMap_congr fun s _ => ?_
  rw [s.is_drawn_eq]
  cases s.drawn? readable library <;> rfl

theorem LayerEntry.sifted_outline (entry : LayerEntry) :
    (entry.sifted readable library).outline readable library = entry.outline readable library := by
  rw [outline, outline, sifted, List.map_map]
  congr 1
  exact List.map_congr_left fun b _ => b.sifted_outline

end Sifting

section Outlines

variable {readable : String → Bool} {library : Option Library}

theorem BiomeEntry.Becomes.outline {entry : BiomeEntry} {made : Configured Biome}
    (h : entry.Becomes library made) (hanswered : Answered readable made.calls) :
    made.value.outline = entry.outline readable library := by
  obtain ⟨hclasses, -, fates, hfates, hbillboards, -, hcalls⟩ := h
  rw [hcalls] at hanswered
  rw [Biome.outline, BiomeEntry.outline, hclasses, hbillboards, List.map_filterMap]
  congr 1
  exact (filter_map_of_forall₂ (forall₂_with_mem hfates hanswered.of_fates)
    fun s fate ⟨hanswered, hmeets⟩ => hmeets.drawn hanswered).symm

theorem LayerEntry.Becomes.outline {entry : LayerEntry} {made : Configured Layer}
    (h : entry.Becomes library made) (hanswered : Answered readable made.calls) :
    made.value.outline = entry.outline readable library := by
  obtain ⟨hname, hparams, hlibrary, biomes, hbiomes, hvalues, -, hcalls⟩ := h
  rw [hcalls] at hanswered
  rw [Layer.outline, LayerEntry.outline, hname, hparams, hlibrary, hvalues, List.map_map]
  congr 1
  exact (map_of_forall₂ (forall₂_with_mem hbiomes hanswered.of_flat_map)
    fun entry made ⟨hanswered, hbecomes⟩ => (hbecomes.outline hanswered).symm).symm

end Outlines

section Faults

variable {readable : String → Bool} {library : Option Library}

theorem Symbol.Meets.not_about_param {s : Symbol} {fate : Fate} (h : s.Meets library fate) :
    ∀ d ∈ fate.diagnostic?, d.isAboutParam = false := by
  intro d hd
  cases fate with
  | unrecognized kind =>
    cases hd
    rfl
  | unresolved fault =>
    cases hd
    obtain ⟨b, -, hr⟩ := h
    rcases BillboardSymbol.resolve_fault hr with ⟨resource, rfl⟩ | ⟨url, width, height, rfl⟩
    · rfl
    · rfl
  | notLoaded r reason =>
    cases hd
    rfl
  | placed r image => cases hd

theorem BiomeEntry.Becomes.not_about_param {entry : BiomeEntry} {made : Configured Biome}
    (h : entry.Becomes library made) : ∀ d ∈ made.diagnostics, d.isAboutParam = false := by
  obtain ⟨-, -, fates, hfates, -, hdiagnostics, -⟩ := h
  intro d hd
  rw [hdiagnostics] at hd
  obtain ⟨fate, hfate, hd⟩ := List.mem_filterMap.mp hd
  obtain ⟨s, -, hmeets⟩ := exists_of_forall₂ hfates hfate
  exact hmeets.not_about_param d hd

theorem LayerEntry.param_faults_about_params (entry : LayerEntry) :
    ∀ d ∈ entry.paramFaults, d.isAboutParam = true := by
  intro d hd
  obtain ⟨r, -, rfl⟩ := List.mem_map.mp hd
  rfl

theorem LayerEntry.Becomes.diagnostics_eq {entry : LayerEntry} {made : Configured Layer}
    (h : entry.Becomes library made) : ∃ biomes, List.Forall₂ (BiomeEntry.Becomes library)
      entry.biomes biomes ∧ made.calls = biomes.flatMap Configured.calls ∧
      made.diagnostics = biomes.flatMap (·.diagnostics) ++ entry.paramFaults := by
  obtain ⟨-, -, -, biomes, hbiomes, -, hdiagnostics, hcalls⟩ := h
  refine ⟨biomes, hbiomes, hcalls, ?_⟩
  rw [hdiagnostics, entry.param_faults_eq, List.append_assoc]

/-- Of what a layer raised, all but what is about its parameters is about a symbol. -/
theorem LayerEntry.Becomes.about_params {entry : LayerEntry} {made : Configured Layer}
    (h : entry.Becomes library made) :
    made.diagnostics.filter Diagnostic.isAboutParam = entry.paramFaults := by
  obtain ⟨biomes, hbiomes, -, hdiagnostics⟩ := h.diagnostics_eq
  have hsymbols : (biomes.flatMap (·.diagnostics)).filter Diagnostic.isAboutParam = [] := by
    apply List.filter_eq_nil_iff.mpr
    intro d hd
    obtain ⟨b, hb, hd⟩ := List.mem_flatMap.mp hd
    obtain ⟨source, -, hbecomes⟩ := exists_of_forall₂ hbiomes hb
    simp [hbecomes.not_about_param d hd]
  rw [hdiagnostics, List.filter_append, hsymbols, List.nil_append]
  exact List.filter_eq_self.mpr entry.param_faults_about_params

theorem BiomeEntry.Becomes.sifted_silent {entry : BiomeEntry} {made : Configured Biome}
    (h : (entry.sifted readable library).Becomes library made)
    (hanswered : Answered readable made.calls) : made.diagnostics = [] := by
  have hwarns := h.warns hanswered
  -- There is one warning for each symbol that is not drawn, and none of those is left.
  have hnone : (entry.sifted readable library).symbols.countP
      (fun s => !s.isDrawn readable library) = 0 := by
    rw [List.countP_eq_zero]
    intro s hs
    simp [(List.mem_filter.mp hs).2]
  rw [hnone] at hwarns
  exact List.eq_nil_of_length_eq_zero hwarns.count

theorem LayerEntry.Becomes.sifted_diagnostics {entry : LayerEntry} {made : Configured Layer}
    (h : (entry.sifted readable library).Becomes library made)
    (hanswered : Answered readable made.calls) : made.diagnostics = entry.paramFaults := by
  obtain ⟨biomes, hbiomes, hcalls, hdiagnostics⟩ := h.diagnostics_eq
  rw [hcalls] at hanswered
  have hsilent : biomes.flatMap (·.diagnostics) = [] := by
    apply List.flatMap_eq_nil_iff.mpr
    intro b hb
    obtain ⟨source, hsource, hbecomes⟩ := exists_of_forall₂ hbiomes hb
    obtain ⟨source, -, rfl⟩ := List.mem_map.mp hsource
    exact hbecomes.sifted_silent (hanswered.of_flat_map b hb)
  rw [hdiagnostics, hsilent, List.nil_append]
  rfl

end Faults

section Loading

variable {m : Type → Type} [Monad m] [Journal m] {σ : Type} [Execution m σ] (load : ImageLoader m)
  (start : σ)

/-- A state in which a loader is after it was asked for some urls. -/
def Reached (s : σ) : Prop := ∃ urls : List String, (exec (urls.mapM load) start).2 = s

/-- Whether the loader has an image for a url in the beginning. -/
def hasImage (url : String) : Bool := (exec (load url) start).1.isOk

/-- Whether there is an image for a url does not depend on what was asked before. Two answers may
still be different images. -/
def Steady : Prop :=
  ∀ s, Reached load start s → ∀ url, (exec (load url) s).1.isOk = hasImage load start url

variable [LawfulMonad m] {load} {start}

theorem Steady.serves (h : Steady load start) :
    Serves load (hasImage load start) (Reached load start) := by
  refine ⟨h, ?_⟩
  rintro _ ⟨urls, rfl⟩ url
  exact ⟨urls ++ [url], by simp⟩

theorem Serves.steady {readable : String → Bool} {P : σ → Prop} (h : Serves load readable P)
    (hstart : P start) : Steady load start := by
  rintro _ ⟨urls, rfl⟩ url
  rw [hasImage, h.answers start hstart, h.answers _ (h.after hstart urls)]

/-- Images next to a manifest are there or not, however many of them are known. -/
theorem images_beside_steady (file : Path) (d : Disk) :
    Steady (m := StateT ImageCache (StateT Disk Logged)) (GeneratorConfig.imagesBeside file)
      ({}, d) :=
  (images_beside_serves file d).steady ⟨rfl, ImageCache.fits_empty d file⟩

end Loading

section Runs

variable {m : Type → Type} [Monad m] [Journal m] {σ : Type} [Execution m σ]

/-- From any state with the property, the computation gives this answer and keeps the property. -/
def Yields {α : Type} (P : σ → Prop) (x : m α) (a : α) : Prop :=
  ∀ s, P s → (exec x s).1 = a ∧ P (exec x s).2

namespace Yields

variable {α β : Type} {P : σ → Prop}

theorem then_pure {x : m α} {a : α} (h : Yields P x a) (f : α → β) :
    Yields P (x >>= fun a => pure (f a)) (f a) := by
  intro s hs
  obtain ⟨hanswer, hkept⟩ := h s hs
  simp only [exec_bind, exec_pure]
  exact ⟨congrArg f hanswer, hkept⟩

theorem map_list [LawfulMonad m] {f : α → m β} {g : α → β} (h : ∀ a, Yields P (f a) (g a))
    (items : List α) : Yields P (items.mapM f) (items.map g) := by
  induction items with
  | nil =>
    intro s hs
    simpa using hs
  | cons a items ih =>
    intro s hs
    obtain ⟨hfirst, hmiddle⟩ := h a s hs
    obtain ⟨hrest, hfinish⟩ := ih _ hmiddle
    simp only [List.mapM_cons, exec_bind, exec_pure, hfirst, hrest, List.map_cons]
    exact ⟨trivial, hfinish⟩

end Yields

variable [LawfulMonad m] {load : ImageLoader m} {readable : String → Bool} {P : σ → Prop}
  (h : Serves load readable P) (library : Option Library)
include h

/-- A symbol is kept when it is drawn. -/
theorem Symbol.kept_yields (s : Symbol) : Yields P (s.kept? load library)
    (if s.isDrawn readable library then some s else none) := by
  intro state hstate
  obtain ⟨fate, finish, hexec, hasked, hmeets⟩ := s.makes_logged load library state
  obtain ⟨hfinish, hanswered⟩ := h.asked hstate hasked
  -- Once the answer is known, whether the symbol is drawn can be read off what became of it.
  rw [s.is_drawn_eq, hmeets.drawn hanswered]
  cases fate <;> simpa [kept?, hexec, Fate.outcome, Fate.billboard?] using hfinish

theorem BiomeEntry.kept_yields (entry : BiomeEntry) :
    Yields P (entry.kept load library) (entry.sifted readable library) := by
  have hsymbols := (Yields.map_list (Symbol.kept_yields h library) entry.symbols).then_pure
    fun symbols => ({ entry with symbols := symbols.filterMap id } : BiomeEntry)
  have hfilter : (entry.symbols.map fun s =>
      if s.isDrawn readable library then some s else none).filterMap id =
      entry.symbols.filter (·.isDrawn readable library) := by
    rw [List.filterMap_map, ← List.filterMap_eq_filter]
    rfl
  rw [hfilter] at hsymbols
  exact hsymbols

theorem LayerEntry.kept_yields (entry : LayerEntry) :
    Yields P (entry.kept load library) (entry.sifted readable library) :=
  (Yields.map_list (BiomeEntry.kept_yields h library) entry.biomes).then_pure
    fun biomes => ({ entry with biomes := biomes } : LayerEntry)

theorem Manifest.kept_yields (manifest : Manifest) :
    Yields P (manifest.kept load) (manifest.sifted readable) :=
  (Yields.map_list (LayerEntry.kept_yields h manifest.openedLibrary) manifest.layers).then_pure
    fun layers => ({ manifest with layers := layers } : Manifest)

end Runs

section Layers

variable {readable : String → Bool} {library : Option Library}

/-- Layers without the symbols that are left out are the same but for images, and all that is raised
for them is about parameters. -/
theorem Manifest.layers_sifted {entries : List LayerEntry}
    {layers layers' : List (Configured Layer)}
    (h : List.Forall₂ (LayerEntry.Becomes library) entries layers)
    (h' : List.Forall₂ (LayerEntry.Becomes library)
      (entries.map (LayerEntry.sifted readable library)) layers')
    (hanswered : Answered readable (layers.flatMap Configured.calls))
    (hanswered' : Answered readable (layers'.flatMap Configured.calls)) :
    layers'.map (·.value.outline) = layers.map (·.value.outline) ∧
      layers'.flatMap (·.diagnostics) =
        (layers.flatMap (·.diagnostics)).filter Diagnostic.isAboutParam := by
  have hboth := forall₂_with_mem h hanswered.of_flat_map
  have hboth' := List.forall₂_map_left_iff.mp (forall₂_with_mem h' hanswered'.of_flat_map)
  constructor
  · rw [← map_of_forall₂ hboth fun entry made ⟨ha, hm⟩ => (hm.outline ha).symm,
      ← map_of_forall₂ hboth' fun entry made ⟨ha, hm⟩ =>
        entry.sifted_outline.symm.trans (hm.outline ha).symm]
  · rw [List.filter_flatMap,
      ← flat_map_of_forall₂ hboth fun entry made ⟨_, hm⟩ => hm.about_params.symm,
      ← flat_map_of_forall₂ hboth' fun entry made ⟨ha, hm⟩ => (hm.sifted_diagnostics ha).symm]

end Layers

/-- Without the symbols that raised something, a manifest leads to the same land cover and to the
same shaders; of the diagnostics, those about parameters are left. The loader need not be new: it
may have been asked for any urls before. -/
theorem dropped_symbols_leave_no_trace {m : Type → Type} [Monad m] [LawfulMonad m] [Journal m]
    {σ : Type} [Execution m σ] (load : ImageLoader m) (manifest : Manifest) (start : σ)
    (hvalid : manifest.resourceNames.Nodup) (hsteady : Steady load start) (before : List String) :
    let again := (exec (before.mapM load) start).2
    let kept := (exec (manifest.kept load) start).1
    ∃ made made' : Diagnosed LandCover,
      (exec (LandCover.ofManifest load manifest) start).1 = .ok made ∧
      (exec (LandCover.ofManifest load kept) again).1 = .ok made' ∧
      made'.value.layers.map Layer.outline = made.value.layers.map Layer.outline ∧
      made'.diagnostics = made.diagnostics.filter Diagnostic.isAboutParam ∧
      ∀ coverage o, (made'.value.generate coverage o).value =
        (made.value.generate coverage o).value := by
  intro again kept
  -- Each of the three runs starts in a state that is reached, so the loader has the same images.
  have hserves := hsteady.serves
  have hstart : Reached load start start := ⟨[], by simp⟩
  have hagain : Reached load start again := ⟨before, rfl⟩
  have hkept : kept = manifest.sifted (hasImage load start) :=
    (Manifest.kept_yields hserves manifest start hstart).1
  obtain ⟨layers, finish, hexec, hasked, hlayers⟩ :=
    LandCover.makes_of_manifest load hvalid start
  have hvalid' : (manifest.sifted (hasImage load start)).resourceNames.Nodup := hvalid
  obtain ⟨layers', finish', hexec', hasked', hlayers'⟩ :=
    LandCover.makes_of_manifest load hvalid' again
  obtain ⟨houtlines, hdiagnostics⟩ := Manifest.layers_sifted hlayers hlayers'
    (hserves.asked hstart hasked).2 (hserves.asked hagain hasked').2
  let made := LandCover.assembled manifest.openedLibrary layers
  let made' := LandCover.assembled manifest.openedLibrary layers'
  have hsame : made'.value.layers.map Layer.outline = made.value.layers.map Layer.outline := by
    simp only [made, made', LandCover.assembled, List.map_map]
    exact houtlines
  refine ⟨made, made', congrArg Prod.fst hexec, ?_, hsame, hdiagnostics, ?_⟩
  · rw [hkept, hexec']
    rfl
  · exact LandCover.generate_of_outlines hsame

/-- A loader that numbers its images from call to call, asked once before the manifest is read
again. An icon, a missing image, a missing resource and a bad size go; two billboards and the note
about the density stay. -/
theorem dropped_symbols_leave_no_trace_numbered :
    let load : ImageLoader (StateT Nat Logged) := fun url calls =>
      ⟨(if url = "gone" then .error "not found" else .ok ⟨calls, 8, 8⟩, calls + 1), []⟩
    let tree : Symbol := .billboard { url := some "tree" }
    let bush : Symbol := .billboard { url := some "bush", width := some .one }
    let biomes (wood scrub : List Symbol) : List BiomeEntry :=
      [{ classes := "wood", symbols := wood }, { classes := "scrub", symbols := scrub }]
    let manifest : Manifest :=
      { layers := [{ name := "l", params := { density := .quietNaN false }
                     biomes := biomes
                       [.icon ⟨"i"⟩, tree, .billboard { url := some "gone" }]
                       [.billboard { resource := some "oak" },
                        .billboard { url := some "flat", height := some .zero }, bush] }] }
    let kept : Manifest := { manifest with
      layers := manifest.layers.map fun l => { l with biomes := biomes [tree] [bush] } }
    ∃ made made' : Diagnosed LandCover,
      (exec (LandCover.ofManifest load manifest) 0).1 = .ok made ∧
      (exec (LandCover.ofManifest load kept) 1).1 = .ok made' ∧
      made.diagnostics.length = 5 ∧
      made'.diagnostics = [.invalidLayerParam "l" .density (.quietNaN false) .one] ∧
      (made'.value.generate none {}).value = (made.value.generate none {}).value := by
  intro load tree bush biomes manifest kept
  have hsteady : Steady load 0 := fun _ _ url => by
    by_cases hurl : url = "gone" <;>
      simp [hasImage, load, hurl, exec, StateT.run, Except.isOk, Except.toBool]
  obtain ⟨made, made', hmade, hmade', -, hdiagnostics, hsources⟩ :=
    dropped_symbols_leave_no_trace load manifest 0 (by decide) hsteady ["tree"]
  have hkept : (exec (manifest.kept load) 0).1 = kept := by decide
  have hagain : (exec (["tree"].mapM load) 0).2 = 1 := rfl
  rw [hkept, hagain] at hmade'
  have hcount : (exec (LandCover.ofManifest load manifest) 0).1.map
      (·.diagnostics.length) = .ok 5 := by
    decide
  have hparams : (exec (LandCover.ofManifest load manifest) 0).1.map
      (·.diagnostics.filter Diagnostic.isAboutParam) =
        .ok [.invalidLayerParam "l" .density (.quietNaN false) .one] := by
    decide
  rw [hmade] at hcount hparams
  refine ⟨made, made', hmade, hmade', Except.ok.inj hcount, ?_, hsources none {}⟩
  exact hdiagnostics.trans (Except.ok.inj hparams)

end Groundcover
