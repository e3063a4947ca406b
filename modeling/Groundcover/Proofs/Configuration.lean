import Groundcover.LandCover
import Groundcover.Proofs.Execution
import Groundcover.Proofs.Library
import Mathlib.Data.List.Forall2

/-!
What a land cover has to do with the manifest that it was built from. Every entry leads to a layer,
a biome or the fate of a symbol in the same place, and the loader is asked only for the images of
symbols that are otherwise in order, one after the other.
-/

namespace Groundcover

/-- A url that a loader was asked for, and its answer. -/
abbrev Call : Type := String × Except String Image

/-- What becomes of a symbol. -/
inductive Fate
  | unrecognized (kind : SymbolKind)
  | unresolved (fault : Diagnostic)
  | notLoaded (billboard : ResolvedBillboard) (reason : String)
  | placed (billboard : ResolvedBillboard) (image : Image)

namespace Fate

def billboard? : Fate → Option Billboard
  | placed r image => some ⟨r.url, image, r.width, r.height⟩
  | _ => none

def diagnostic? : Fate → Option Diagnostic
  | unrecognized kind => some (.unrecognizedSymbol kind)
  | unresolved fault => some fault
  | notLoaded r reason => some (.billboardLoadFailed r.url reason)
  | placed _ _ => none

def call? : Fate → Option Call
  | notLoaded r reason => some (r.url, .error reason)
  | placed r image => some (r.url, .ok image)
  | _ => none

def outcome : Fate → Except Diagnostic Billboard
  | unrecognized kind => .error (.unrecognizedSymbol kind)
  | unresolved fault => .error fault
  | notLoaded r reason => .error (.billboardLoadFailed r.url reason)
  | placed r image => .ok ⟨r.url, image, r.width, r.height⟩

theorem placed_outcomes (fates : List Fate) :
    Groundcover.placed (fates.map outcome) = fates.filterMap billboard? := by
  rw [Groundcover.placed, List.filterMap_map]
  congr 1
  funext fate
  cases fate <;> rfl

theorem faults_outcomes (fates : List Fate) :
    faults (fates.map outcome) = fates.filterMap diagnostic? := by
  rw [faults, List.filterMap_map]
  congr 1
  funext fate
  cases fate <;> rfl

/-- A symbol that has no billboard has a diagnostic instead, and never both. -/
theorem billboards_add_diagnostics (fates : List Fate) :
    (fates.filterMap billboard?).length + (fates.filterMap diagnostic?).length = fates.length := by
  induction fates with
  | nil => rfl
  | cons fate fates ih =>
    cases fate <;> simp only [List.filterMap_cons, billboard?, diagnostic?, List.length_cons] <;>
      omega

end Fate

/-- The fates that the kind of a symbol and its resolution leave open; the loader
decides the rest. -/
def Symbol.Meets (library : Option Library) (s : Symbol) : Fate → Prop
  | .unrecognized kind => s.billboard? = none ∧ kind = s.kind
  | .unresolved fault => ∃ b, s.billboard? = some b ∧ b.resolve library = .error fault
  | .notLoaded r _ => ∃ b, s.billboard? = some b ∧ b.resolve library = .ok r
  | .placed r _ => ∃ b, s.billboard? = some b ∧ b.resolve library = .ok r

/-- What an entry led to, with the diagnostics that it raised and the calls that it made. -/
structure Configured (α : Type) extends Diagnosed α where
  calls : List Call

/-- A biome has the classes of its entry and the billboards of its symbols, in their order; every
other symbol raised one diagnostic. -/
def BiomeEntry.Becomes (library : Option Library) (entry : BiomeEntry)
    (made : Configured Biome) : Prop :=
  made.value.classes = ClassList.names entry.classes ∧
    made.value.billboards.length + made.diagnostics.length = entry.symbols.length ∧
    ∃ fates, List.Forall₂ (Symbol.Meets library) entry.symbols fates ∧
      made.value.billboards = fates.filterMap Fate.billboard? ∧
      made.diagnostics = fates.filterMap Fate.diagnostic? ∧
      made.calls = fates.filterMap Fate.call?

/-- A layer has the name of its entry and a biome for each of its biomes. What was wrong with the
parameters is told after all that was wrong with the biomes. -/
def LayerEntry.Becomes (library : Option Library) (entry : LayerEntry)
    (made : Configured Layer) : Prop :=
  made.value.name = entry.name ∧ made.value.params = entry.params.sanitized ∧
    made.value.library = library ∧
    ∃ biomes, List.Forall₂ (BiomeEntry.Becomes library) entry.biomes biomes ∧
      made.value.biomes = biomes.map (·.value) ∧
      made.diagnostics = biomes.flatMap (·.diagnostics) ++
        (if entry.params.HasDensity then []
          else [.invalidLayerParam entry.name .density entry.params.density .one]) ++
        (if entry.params.HasFill then []
          else [.invalidLayerParam entry.name .fill entry.params.fill .one]) ∧
      made.calls = biomes.flatMap Configured.calls

/-- The image that a symbol needs, if all else about it is in order. -/
def Symbol.url? (library : Option Library) (s : Symbol) : Option String :=
  s.billboard?.bind fun b => (b.resolve library).toOption.map ResolvedBillboard.url

namespace Manifest

def resourceNames (m : Manifest) : List String :=
  (m.library.map LibraryConfig.resourceNames).getD []

def openedLibrary (m : Manifest) : Option Library := m.library.map fun c => ⟨c.name, c.resources⟩

/-- The images that are needed, in the order of the symbols that need them. -/
def urls (m : Manifest) : List String :=
  m.layers.flatMap fun l => l.biomes.flatMap fun b => b.symbols.filterMap (·.url? m.openedLibrary)

end Manifest

section Entries

variable {α β : Type} {R : α → β → Prop} {items : List α} {made : List β}

theorem flat_map_of_forall₂ {γ : Type} {f : α → List γ} {g : β → List γ}
    (h : List.Forall₂ R items made) (hfg : ∀ a b, R a b → f a = g b) :
    items.flatMap f = made.flatMap g := by
  induction h with
  | nil => rfl
  | cons hab _ ih => rw [List.flatMap_cons, List.flatMap_cons, hfg _ _ hab, ih]

theorem map_of_forall₂ {γ : Type} {f : α → γ} {g : β → γ} (h : List.Forall₂ R items made)
    (hfg : ∀ a b, R a b → f a = g b) : items.map f = made.map g := by
  induction h with
  | nil => rfl
  | cons hab _ ih => rw [List.map_cons, List.map_cons, hfg _ _ hab, ih]

theorem filter_map_of_forall₂ {γ : Type} {f : α → Option γ} {g : β → Option γ}
    (h : List.Forall₂ R items made) (hfg : ∀ a b, R a b → f a = g b) :
    items.filterMap f = made.filterMap g := by
  induction h with
  | nil => rfl
  | cons hab _ ih => rw [List.filterMap_cons, List.filterMap_cons, hfg _ _ hab, ih]

/-- What stands at a place was made from what stands at that place. -/
theorem source_of_forall₂ (h : List.Forall₂ R items made) {i : Nat} {b : β}
    (hb : made[i]? = some b) : ∃ a, items[i]? = some a ∧ R a b := by
  obtain ⟨hlength, hget⟩ := List.forall₂_iff_get.mp h
  obtain ⟨hi, rfl⟩ := List.getElem?_eq_some_iff.mp hb
  have hi' : i < items.length := hlength ▸ hi
  exact ⟨items[i], List.getElem?_eq_getElem hi', hget i hi' hi⟩

theorem exists_of_forall₂ (h : List.Forall₂ R items made) {b : β} (hb : b ∈ made) :
    ∃ a ∈ items, R a b := by
  obtain ⟨i, hi⟩ := List.mem_iff_getElem?.mp hb
  obtain ⟨a, ha, hab⟩ := source_of_forall₂ h hi
  exact ⟨a, List.mem_of_getElem? ha, hab⟩

theorem forall₂_with_mem {p : β → Prop} (h : List.Forall₂ R items made) (hp : ∀ b ∈ made, p b) :
    List.Forall₂ (fun a b => p b ∧ R a b) items made :=
  ((List.forall₂_and_left made items).mpr ⟨hp, List.Forall₂.flip h⟩).flip

end Entries

section Urls

variable {library : Option Library}

/-- A loader is asked for the image of every symbol that is otherwise in order, and for no other. -/
theorem Symbol.Meets.url {s : Symbol} {fate : Fate} (h : s.Meets library fate) :
    s.url? library = fate.call?.map Prod.fst := by
  cases fate with
  | unrecognized kind => simp [Symbol.url?, Fate.call?, h.1]
  | unresolved fault =>
    obtain ⟨b, hb, hr⟩ := h
    simp [Symbol.url?, Fate.call?, hb, hr, Except.toOption]
  | notLoaded r reason =>
    obtain ⟨b, hb, hr⟩ := h
    simp [Symbol.url?, Fate.call?, hb, hr, Except.toOption]
  | placed r image =>
    obtain ⟨b, hb, hr⟩ := h
    simp [Symbol.url?, Fate.call?, hb, hr, Except.toOption]

theorem BiomeEntry.Becomes.urls {entry : BiomeEntry} {made : Configured Biome}
    (h : entry.Becomes library made) :
    entry.symbols.filterMap (·.url? library) = made.calls.map Prod.fst := by
  obtain ⟨-, -, fates, hfates, -, -, hcalls⟩ := h
  rw [hcalls, List.map_filterMap]
  exact filter_map_of_forall₂ hfates fun _ _ => Symbol.Meets.url

theorem LayerEntry.Becomes.urls {entry : LayerEntry} {made : Configured Layer}
    (h : entry.Becomes library made) :
    (entry.biomes.flatMap fun b => b.symbols.filterMap (·.url? library)) =
      made.calls.map Prod.fst := by
  obtain ⟨-, -, -, biomes, hbiomes, -, -, hcalls⟩ := h
  rw [hcalls, List.map_flatMap]
  exact flat_map_of_forall₂ hbiomes fun _ _ => BiomeEntry.Becomes.urls

end Urls

open Execution

variable {m : Type → Type} [Monad m] [Journal m] {σ : Type} [Execution m σ] {load : ImageLoader m}

/-- Asked for some urls one after the other, a loader gives these answers and ends in that state. -/
def Asked (load : ImageLoader m) (start : σ) (calls : List Call) (finish : σ) : Prop :=
  exec ((calls.map Prod.fst).mapM load) start = (calls.map Prod.snd, finish)

/-- Wherever it starts, a computation answers with the value of something that has the property,
and all it did to the state is to make the calls of that thing. -/
def Makes {β ρ : Type} (load : ImageLoader m) (x : m β) (value : ρ → β) (calls : ρ → List Call)
    (p : ρ → Prop) : Prop :=
  ∀ start, ∃ made finish, exec x start = (value made, finish) ∧
    Asked load start (calls made) finish ∧ p made

theorem Asked.none (start : σ) : Asked load start [] start := by
  simp [Asked]

section Calls

variable [LawfulMonad m]

theorem Asked.one {start finish : σ} {url : String} {answer : Except String Image}
    (h : exec (load url) start = (answer, finish)) : Asked load start [(url, answer)] finish := by
  simp [Asked, h]

theorem Asked.of_cons {start finish : σ} {call : Call} {calls : List Call}
    (h : Asked load start (call :: calls) finish) :
    ∃ middle, exec (load call.1) start = (call.2, middle) ∧ Asked load middle calls finish := by
  rcases hload : exec (load call.1) start with ⟨answer, middle⟩
  rcases hrest : exec ((calls.map Prod.fst).mapM load) middle with ⟨answers, last⟩
  simp only [Asked, List.map_cons, List.mapM_cons, exec_bind, exec_pure, hload, hrest,
    Prod.mk.injEq, List.cons.injEq] at h
  obtain ⟨⟨rfl, rfl⟩, rfl⟩ := h
  exact ⟨middle, rfl, hrest⟩

theorem Asked.append {start middle finish : σ} {first second : List Call}
    (hfirst : Asked load start first middle) (hsecond : Asked load middle second finish) :
    Asked load start (first ++ second) finish := by
  rw [Asked] at hfirst hsecond ⊢
  simp only [List.map_append, List.mapM_append, exec_bind, exec_pure, hfirst, hsecond]

/-- Made one after the other, things make their calls one after the other. -/
theorem Makes.each {α β ρ : Type} {f : α → m β} {value : ρ → β} {calls : ρ → List Call}
    {R : α → ρ → Prop} (h : ∀ a, Makes load (f a) value calls (R a)) (items : List α) :
    Makes load (items.mapM f) (List.map value) (List.flatMap calls) (List.Forall₂ R items) := by
  induction items with
  | nil => exact fun start => ⟨[], start, by simp, .none start, .nil⟩
  | cons a items ih =>
    intro start
    obtain ⟨first, middle, hexec, hasked, hfirst⟩ := h a start
    obtain ⟨rest, finish, hexecs, hcalls, hrest⟩ := ih middle
    exact ⟨first :: rest, finish, by simp [hexec, hexecs], hasked.append hcalls, .cons hfirst hrest⟩

variable (load) (library : Option Library)

theorem Symbol.makes (s : Symbol) :
    Makes load (s.place load library) Fate.outcome (·.call?.toList) (s.Meets library) := by
  intro start
  cases hb : s.billboard? with
  | none =>
    exact ⟨.unrecognized s.kind, start, by simp [place, hb, Fate.outcome], .none start, hb, rfl⟩
  | some b =>
    cases hr : b.resolve library with
    | error fault =>
      exact ⟨.unresolved fault, start, by simp [place, hb, hr, Fate.outcome], .none start,
        b, hb, hr⟩
    | ok r =>
      rcases hload : exec (load r.url) start with ⟨answer, finish⟩
      cases answer with
      | ok image =>
        exact ⟨.placed r image, finish, by simp [place, hb, hr, hload, Fate.outcome], .one hload,
          b, hb, hr⟩
      | error reason =>
        exact ⟨.notLoaded r reason, finish, by simp [place, hb, hr, hload, Fate.outcome],
          .one hload, b, hb, hr⟩

/-- Logging a fault changes nothing about what becomes of a symbol. -/
theorem Symbol.makes_logged (s : Symbol) :
    Makes load (s.placeLogged load library) Fate.outcome (·.call?.toList) (s.Meets library) := by
  intro start
  obtain ⟨fate, finish, hexec, hasked, hmeets⟩ := s.makes load library start
  refine ⟨fate, finish, ?_, hasked, hmeets⟩
  cases fate <;> simp [placeLogged, hexec, Fate.outcome]

theorem Biome.makes_of_entry (entry : BiomeEntry) :
    Makes load (Biome.ofEntry load library entry) Configured.toDiagnosed Configured.calls
      (entry.Becomes library) := by
  intro start
  obtain ⟨fates, finish, hexec, hasked, hfates⟩ :=
    Makes.each (Symbol.makes_logged load library) entry.symbols start
  refine ⟨⟨⟨⟨ClassList.names entry.classes, fates.filterMap Fate.billboard?⟩,
    fates.filterMap Fate.diagnostic?⟩, fates.filterMap Fate.call?⟩, finish, ?_, ?_, rfl, ?_, fates,
    hfates, rfl, rfl, rfl⟩
  · simp [ofEntry, hexec, Fate.placed_outcomes, Fate.faults_outcomes]
  · exact List.filterMap_eq_flatMap_toList Fate.call? fates ▸ hasked
  · rw [hfates.length_eq]
    exact Fate.billboards_add_diagnostics fates

theorem LayerEntry.param_faults_eq (entry : LayerEntry) :
    entry.paramFaults =
      (if entry.params.HasDensity then []
        else [.invalidLayerParam entry.name .density entry.params.density .one]) ++
      (if entry.params.HasFill then []
        else [.invalidLayerParam entry.name .fill entry.params.fill .one]) := by
  rw [paramFaults, LayerParams.resets, List.map_append]
  split <;> split <;> rfl

theorem Layer.makes_of_entry (entry : LayerEntry) :
    Makes load (Layer.ofEntry load library entry) Configured.toDiagnosed Configured.calls
      (entry.Becomes library) := by
  intro start
  obtain ⟨biomes, finish, hexec, hasked, hbiomes⟩ :=
    Makes.each (Biome.makes_of_entry load library) entry.biomes start
  refine ⟨⟨⟨⟨entry.name, entry.params.sanitized, biomes.map (·.value), library⟩,
    biomes.flatMap (·.diagnostics) ++ entry.paramFaults⟩, biomes.flatMap Configured.calls⟩, finish,
    ?_, hasked, rfl, rfl, rfl, biomes, hbiomes, rfl, ?_, rfl⟩
  · simp [ofEntry, hexec, List.flatMap_map, Function.comp_def]
  · simp only [LayerEntry.param_faults_eq, List.append_assoc]

namespace LandCover

/-- The land cover of some layers that came out of their entries. -/
def assembled (library : Option Library) (layers : List (Configured Layer)) : Diagnosed LandCover :=
  ⟨⟨library, layers.map (·.value)⟩, layers.flatMap (·.diagnostics)⟩

theorem makes_of_layers (entries : List LayerEntry) :
    Makes load (ofLayers load library entries) (assembled library) (List.flatMap Configured.calls)
      (List.Forall₂ (LayerEntry.Becomes library) entries) := by
  intro start
  obtain ⟨layers, finish, hexec, hasked, hlayers⟩ :=
    Makes.each (Layer.makes_of_entry load library) entries start
  refine ⟨layers, finish, ?_, hasked, hlayers⟩
  simp only [ofLayers]
  split <;> simp [hexec, assembled, List.flatMap_map, Function.comp_def]

/-- A manifest whose resources have different names makes its layers, with its library. -/
theorem makes_of_manifest {manifest : Manifest} (h : manifest.resourceNames.Nodup) :
    Makes load (ofManifest load manifest)
      (fun layers => .ok (assembled manifest.openedLibrary layers)) (List.flatMap Configured.calls)
      (List.Forall₂ (LayerEntry.Becomes manifest.openedLibrary) manifest.layers) := by
  intro start
  obtain ⟨layers, finish, hexec, hasked, hlayers⟩ :=
    makes_of_layers load manifest.openedLibrary manifest.layers start
  refine ⟨layers, finish, ?_, hasked, hlayers⟩
  cases hl : manifest.library with
  | none => simp_all [ofManifest, Manifest.openedLibrary]
  | some config =>
    have hdistinct : config.resourceNames.Nodup := by simpa [Manifest.resourceNames, hl] using h
    simp_all [ofManifest, Manifest.openedLibrary, Library.of_config_distinct hdistinct]

omit [LawfulMonad m] in
/-- A manifest that repeats the name of a resource is refused before anything is done for it. -/
theorem of_manifest_repeated {manifest : Manifest} (h : ¬manifest.resourceNames.Nodup) (start : σ) :
    ∃ e : DuplicateResource, exec (ofManifest load manifest) start = (.error e, start) ∧
      manifest.library.map LibraryConfig.name = some e.library ∧
      FirstRepeat manifest.resourceNames e.resource := by
  cases hl : manifest.library with
  | none => simp [Manifest.resourceNames, hl] at h
  | some config =>
    have hnames : manifest.resourceNames = config.resourceNames := by
      simp [Manifest.resourceNames, hl]
    rw [hnames] at h ⊢
    obtain ⟨name, hvalue, hrepeat⟩ := Library.of_config_repeated h
    exact ⟨⟨config.name, name⟩, by simp [ofManifest, hl, hvalue], rfl, hrepeat⟩

variable {load} in
/-- Land cover that was built comes from the layers of the manifest. -/
theorem of_manifest_ok {manifest : Manifest} {start finish : σ} {made : Diagnosed LandCover}
    (h : exec (ofManifest load manifest) start = (.ok made, finish)) :
    ∃ layers : List (Configured Layer), made = assembled manifest.openedLibrary layers ∧
      List.Forall₂ (LayerEntry.Becomes manifest.openedLibrary) manifest.layers layers ∧
      Asked load start (layers.flatMap Configured.calls) finish := by
  by_cases hdistinct : manifest.resourceNames.Nodup
  · obtain ⟨layers, last, hexec, hasked, hlayers⟩ := makes_of_manifest load hdistinct start
    rw [hexec] at h
    cases h
    exact ⟨layers, rfl, hlayers, hasked⟩
  · obtain ⟨e, hexec, -⟩ := of_manifest_repeated load hdistinct start
    rw [hexec] at h
    cases h

variable {load} in
/-- Land cover that was configured comes from the layers of the manifest, what they raised, and the
calls they made. -/
theorem configure_ok {manifest : Manifest} {raised raised' : Diagnostics} {start finish : σ}
    {cover : LandCover}
    (h : exec (configure load manifest raised) start = ((.ok cover, raised'), finish)) :
    ∃ layers : List (Configured Layer),
      cover = ⟨manifest.openedLibrary, layers.map (·.value)⟩ ∧
      raised' = raised ++ layers.flatMap (·.diagnostics) ∧
      List.Forall₂ (LayerEntry.Becomes manifest.openedLibrary) manifest.layers layers ∧
      Asked load start (layers.flatMap Configured.calls) finish := by
  simp only [configure, exec_bind] at h
  rcases hmade : exec (ofManifest load manifest) start with ⟨e | made, last⟩
  · simp [hmade] at h
  · simp only [hmade, exec_pure, Prod.mk.injEq, Except.ok.injEq] at h
    obtain ⟨⟨rfl, rfl⟩, rfl⟩ := h
    obtain ⟨layers, rfl, hlayers, hasked⟩ := of_manifest_ok hmade
    exact ⟨layers, rfl, rfl, hlayers, hasked⟩

end LandCover

end Calls

/-- What a manifest leads to, whatever its loader answers. Two resources of one name end it before
the loader is asked or anything raised. Otherwise every entry becomes a layer in its place, what
they raised is told layer by layer behind what was raised before, and the loader was asked for the
image of each symbol that resolves, once and in order. -/
theorem manifest_becomes_land_cover {σ : Type} (load : ImageLoader (StateT σ Logged))
    (manifest : Manifest) (raised : Diagnostics) (start : σ) :
    let ending := ((LandCover.configure load manifest raised).run start).value
    (¬manifest.resourceNames.Nodup ∧ ∃ e : DuplicateResource, ending = ((.error e, raised), start) ∧
      manifest.library.map LibraryConfig.name = some e.library ∧
      FirstRepeat manifest.resourceNames e.resource) ∨
    (manifest.resourceNames.Nodup ∧ ∃ (layers : List (Configured Layer)) (finish : σ),
      let calls := layers.flatMap Configured.calls
      ending = ((.ok ⟨manifest.openedLibrary, layers.map (·.value)⟩,
        raised ++ layers.flatMap (·.diagnostics)), finish) ∧
      List.Forall₂ (LayerEntry.Becomes manifest.openedLibrary) manifest.layers layers ∧
      calls.map Prod.fst = manifest.urls ∧
      ((manifest.urls.mapM load).run start).value = (calls.map Prod.snd, finish)) := by
  intro ending
  have hending : ending = exec (LandCover.configure load manifest raised) start := rfl
  by_cases h : manifest.resourceNames.Nodup
  · right
    obtain ⟨layers, finish, hexec, hasked, hlayers⟩ := LandCover.makes_of_manifest load h start
    have hurls : (layers.flatMap Configured.calls).map Prod.fst = manifest.urls := by
      rw [List.map_flatMap]
      exact (flat_map_of_forall₂ hlayers fun _ _ => LayerEntry.Becomes.urls).symm
    refine ⟨h, layers, finish, ?_, hlayers, hurls, ?_⟩
    · rw [hending]
      simp [LandCover.configure, hexec, LandCover.assembled, Diagnostics.extend]
    · rw [← hurls]
      exact hasked
  · left
    obtain ⟨e, hexec, hlibrary, hrepeat⟩ := LandCover.of_manifest_repeated load h start
    refine ⟨h, e, ?_, hlibrary, hrepeat⟩
    rw [hending]
    simp [LandCover.configure, hexec]

end Groundcover
