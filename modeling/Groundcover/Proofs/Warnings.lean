import Groundcover.Proofs.Agreement
import Groundcover.Proofs.Images
import Groundcover.Proofs.Outline
import Groundcover.Proofs.Writing

/-!
How many warnings there are. Each symbol that is not drawn and each parameter that is put back
raises one while land cover is built. Each class that the legend lacks and each row without a value
raises one in the index of its layer and one in the coverage of its biome; without classification
there are notices in their place, which are no warnings.
-/

namespace Groundcover

/-- Some number of diagnostics, all of which are warnings. -/
structure Diagnostics.Warns (n : Nat) (ds : Diagnostics) : Prop where
  count : ds.length = n
  warnings : ∀ d ∈ ds, d.isWarning = true

open Diagnostics

namespace Diagnostics.Warns

variable {n k : Nat} {ds more : Diagnostics}

theorem none : Warns 0 [] := ⟨rfl, nofun⟩

theorem one {d : Diagnostic} (h : d.isWarning = true) : Warns 1 [d] := ⟨rfl, by simpa using h⟩

theorem of_count (h : Warns n ds) (hcount : n = k) : Warns k ds := hcount ▸ h

theorem append (h : Warns n ds) (h' : Warns k more) : Warns (n + k) (ds ++ more) := by
  refine ⟨by rw [List.length_append, h.count, h'.count], fun d hd => ?_⟩
  rcases List.mem_append.mp hd with hd | hd
  · exact h.warnings d hd
  · exact h'.warnings d hd

theorem warning_count (h : Warns n ds) : warningCount ds = n :=
  h.count ▸ List.countP_eq_length.mpr h.warnings

theorem no_notices (h : Warns n ds) : ds.filter (fun d => !d.isWarning) = [] :=
  List.filter_eq_nil_iff.mpr fun d hd => by simp [h.warnings d hd]

/-- What is raised for related things is raised for a list of them. -/
theorem flat_map {α β γ : Type} {R : α → β → Prop} {items : List α} {made : List β}
    {f : α → List γ} {p : γ → Bool} {g : β → Diagnostics} (h : List.Forall₂ R items made)
    (hwarns : ∀ a b, R a b → Warns ((f a).countP p) (g b)) :
    Warns ((items.flatMap f).countP p) (made.flatMap g) := by
  induction h with
  | nil => exact none
  | cons hab _ ih =>
    rw [List.flatMap_cons, List.flatMap_cons, List.countP_append]
    exact (hwarns _ _ hab).append ih

/-- What is raised twice for each of some things counts twice. -/
theorem twice {α : Type} {items : List α} {f : α → Diagnostics} (h : Warns n (items.flatMap f)) :
    Warns (2 * n) (items.flatMap fun a => f a ++ f a) := by
  refine ⟨?_, fun d hd => h.warnings d ?_⟩
  · rw [← h.count]
    clear h
    induction items with
    | nil => rfl
    | cons a items ih =>
      simp only [List.flatMap_cons, List.length_append, ih]
      omega
  · obtain ⟨a, ha, hd⟩ := List.mem_flatMap.mp hd
    exact List.mem_flatMap.mpr ⟨a, ha, (List.mem_append.mp hd).elim id id⟩

end Diagnostics.Warns

/-- A symbol is drawn when it is a billboard in order whose image can be had. -/
def Symbol.isDrawn (readable : String → Bool) (library : Option Library) (s : Symbol) : Bool :=
  (s.url? library).any readable

/-- The billboard that a symbol becomes if its image can be had. -/
def Symbol.drawn? (readable : String → Bool) (library : Option Library) (s : Symbol) :
    Option ResolvedBillboard :=
  (s.billboard?.bind fun b => (b.resolve library).toOption).filter fun r => readable r.url

theorem Symbol.is_drawn_eq {readable : String → Bool} {library : Option Library} (s : Symbol) :
    s.isDrawn readable library = (s.drawn? readable library).isSome := by
  rw [isDrawn, url?, drawn?]
  cases s.billboard? with
  | none => rfl
  | some b => simp [Option.any_map]

namespace Manifest

/-- Every biome of every layer. -/
def biomes (m : Manifest) : List BiomeEntry := m.layers.flatMap LayerEntry.biomes

/-- Every class of every biome, as often as the biome lists it. -/
def occurrences (m : Manifest) : List String := m.biomes.flatMap fun b => ClassList.names b.classes

/-- The number of symbols that are left out of biomes. -/
def dropped (m : Manifest) (readable : String → Bool) : Nat :=
  (m.biomes.flatMap BiomeEntry.symbols).countP fun s => !s.isDrawn readable m.openedLibrary

def invalidDensities (m : Manifest) : Nat := m.layers.countP fun l => ¬l.params.HasDensity

def invalidFills (m : Manifest) : Nat := m.layers.countP fun l => ¬l.params.HasFill

end Manifest

section Building

variable {library : Option Library} {readable : String → Bool}

/-- What keeps a symbol from being resolved is about its image or about its size. -/
theorem BillboardSymbol.resolve_fault {b : BillboardSymbol} {fault : Diagnostic}
    (h : b.resolve library = .error fault) :
    (∃ resource, fault = .unresolvedBillboard resource) ∨
      ∃ url width height, fault = .invalidBillboardSize url width height := by
  unfold resolve at h
  split at h
  · rename_i d hresource
    cases h
    unfold resource? at hresource
    split at hresource
    · cases hresource
    · split at hresource
      · cases hresource
      · cases hresource
        exact .inl ⟨_, rfl⟩
  · split at h
    · cases h
      exact .inl ⟨_, rfl⟩
    · unfold sized at h
      split at h
      · cases h
      · cases h
        exact .inr ⟨_, _, _, rfl⟩

theorem Symbol.Meets.drawn {s : Symbol} {fate : Fate} (h : s.Meets library fate)
    (hanswered : Answered readable fate.call?.toList) :
    s.drawn? readable library = fate.billboard?.map Billboard.resolved := by
  cases fate with
  | unrecognized kind =>
    rw [drawn?, h.1]
    rfl
  | unresolved fault =>
    obtain ⟨b, hb, hr⟩ := h
    simp [drawn?, hb, hr, Except.toOption, Fate.billboard?]
  | notLoaded r reason =>
    obtain ⟨b, hb, hr⟩ := h
    have hno : false = readable r.url := hanswered (r.url, .error reason) (by simp [Fate.call?])
    simp [drawn?, hb, hr, Except.toOption, Fate.billboard?, ← hno]
  | placed r image =>
    obtain ⟨b, hb, hr⟩ := h
    have hyes : true = readable r.url := hanswered (r.url, .ok image) (by simp [Fate.call?])
    simp [drawn?, hb, hr, Except.toOption, Fate.billboard?, ← hyes, Billboard.resolved]

/-- A symbol that is not drawn has one warning, and one that is drawn has none. -/
theorem Symbol.Meets.warns {s : Symbol} {fate : Fate} (h : s.Meets library fate)
    (hanswered : Answered readable fate.call?.toList) :
    Warns (if s.isDrawn readable library then 0 else 1) fate.diagnostic?.toList := by
  rw [s.is_drawn_eq, h.drawn hanswered]
  cases fate with
  | unrecognized kind => exact .one rfl
  | unresolved fault =>
    obtain ⟨b, -, hr⟩ := h
    rcases BillboardSymbol.resolve_fault hr with ⟨resource, rfl⟩ | ⟨url, width, height, rfl⟩
    · exact .one rfl
    · exact .one rfl
  | notLoaded r reason => exact .one rfl
  | placed r image => exact .none

theorem BiomeEntry.Becomes.warns {entry : BiomeEntry} {made : Configured Biome}
    (h : entry.Becomes library made) (hanswered : Answered readable made.calls) :
    Warns (entry.symbols.countP fun s => !s.isDrawn readable library) made.diagnostics := by
  obtain ⟨-, -, fates, hfates, -, hdiagnostics, hcalls⟩ := h
  rw [hcalls] at hanswered
  rw [hdiagnostics, List.filterMap_eq_flatMap_toList, ← List.flatMap_singleton' entry.symbols]
  refine .flat_map (forall₂_with_mem hfates hanswered.of_fates) ?_
  rintro s fate ⟨hown, hmeets⟩
  have hwarns := hmeets.warns hown
  cases hdrawn : s.isDrawn readable library <;> simpa [hdrawn] using hwarns

/-- A layer has the warnings of its symbols, and one more for each parameter that was put back. -/
theorem LayerEntry.Becomes.warns {entry : LayerEntry} {made : Configured Layer}
    (h : entry.Becomes library made) (hanswered : Answered readable made.calls) :
    Warns ((entry.biomes.flatMap BiomeEntry.symbols).countP (fun s => !s.isDrawn readable library) +
      (if entry.params.HasDensity then 0 else 1) + (if entry.params.HasFill then 0 else 1))
      made.diagnostics := by
  obtain ⟨-, -, -, biomes, hbiomes, -, hdiagnostics, hcalls⟩ := h
  rw [hcalls] at hanswered
  rw [hdiagnostics]
  refine (Warns.append ?_ ?_).append ?_
  · refine .flat_map (forall₂_with_mem hbiomes hanswered.of_flat_map) ?_
    rintro entry made ⟨hown, hbecomes⟩
    exact hbecomes.warns hown
  · split
    · exact .none
    · exact .one rfl
  · split
    · exact .none
    · exact .one rfl

/-- Layers have one warning for each symbol that is left out and each parameter put back. -/
theorem Manifest.entries_warn {entries : List LayerEntry} {layers : List (Configured Layer)}
    (h : List.Forall₂ (LayerEntry.Becomes library) entries layers)
    (hanswered : Answered readable (layers.flatMap Configured.calls)) :
    Warns (((entries.flatMap LayerEntry.biomes).flatMap BiomeEntry.symbols).countP
        (fun s => !s.isDrawn readable library) +
      entries.countP (fun l => ¬l.params.HasDensity) + entries.countP (fun l => ¬l.params.HasFill))
      (layers.flatMap (·.diagnostics)) := by
  induction h with
  | nil => exact .none
  | @cons entry made entries layers hbecomes _ ih =>
    have hfirst := hbecomes.warns (hanswered.of_flat_map made List.mem_cons_self)
    have hrest := ih fun call hcall => hanswered call (by simp_all)
    refine (hfirst.append hrest).of_count ?_
    simp only [List.flatMap_cons, List.flatMap_append, List.countP_append, List.countP_cons]
    by_cases hdensity : entry.params.HasDensity <;> by_cases hfill : entry.params.HasFill <;>
      simp [hdensity, hfill] <;> omega

/-- The biomes of layers have the classes of their entries. -/
theorem Manifest.entries_classes {entries : List LayerEntry} {layers : List (Configured Layer)}
    (h : List.Forall₂ (LayerEntry.Becomes library) entries layers) :
    ((entries.flatMap LayerEntry.biomes).map fun b => ClassList.names b.classes) =
      ((layers.map (·.value)).flatMap Layer.biomes).map Biome.classes := by
  rw [List.map_flatMap, List.map_flatMap, List.flatMap_map]
  refine flat_map_of_forall₂ h fun entry made hbecomes => ?_
  obtain ⟨-, -, -, biomes, hbiomes, hmade, -, -⟩ := hbecomes
  rw [hmade, List.map_map]
  exact map_of_forall₂ hbiomes fun _ _ hbiome => hbiome.1.symm

end Building

/-- A row none of whose values can be tested. -/
def LegendRow.IsUnbounded (row : LegendRow) : Prop :=
  ValuePredicate.finite row.predicate.exact = none ∧
    ValuePredicate.finite row.predicate.min = none ∧
    ValuePredicate.finite row.predicate.max = none

instance (row : LegendRow) : Decidable row.IsUnbounded := inferInstanceAs (Decidable (_ ∧ _ ∧ _))

/-- The occurrences of classes that no row names. -/
def LegendRow.unknown (rows : List LegendRow) (occurrences : List String) : List String :=
  occurrences.filter fun name => ∀ row ∈ rows, row.className ≠ name

/-- The rows without a value, for each occurrence of their classes. -/
def LegendRow.unbounded (rows : List LegendRow) (occurrences : List String) : List LegendRow :=
  occurrences.flatMap fun name => rows.filter fun row => row.className = name ∧ row.IsUnbounded

namespace Manifest

/-- What is wrong with classes, told once for the index of biomes and once for their coverage. -/
def classWarnings (m : Manifest) : Nat :=
  match m.legend, m.binding with
  | some rows, some _ =>
    2 * ((LegendRow.unknown rows m.occurrences).length +
      (LegendRow.unbounded rows m.occurrences).length)
  | _, _ => 0

/-- What is told instead when something is missing that classification needs: one notice for the
index of each layer, and one for the coverage of each biome. -/
def notices (m : Manifest) : Diagnostics :=
  match m.legend, m.binding with
  | none, _ => .replicate (m.layers.length + m.biomes.length) (.fallback .noLegend)
  | some _, none =>
    .replicate (m.layers.length + m.biomes.length) (.fallback .noClassificationLayer)
  | some _, some _ => []

end Manifest

section Classifying

open LegendRow

theorem LegendRow.bound_eq_none_iff (row : LegendRow) :
    row.predicate.bound? = none ↔ row.IsUnbounded := by
  unfold ValuePredicate.bound? IsUnbounded
  cases ValuePredicate.finite row.predicate.exact <;>
    cases ValuePredicate.finite row.predicate.min <;>
    cases ValuePredicate.finite row.predicate.max <;> simp

variable (rows : List LegendRow)

theorem LegendRow.unbounded_length (name : String) :
    (unbounded rows [name]).length =
      (predicatesOf rows name).countP fun p => p.bound?.isNone := by
  rw [predicatesOf, List.countP_map, List.countP_filter, List.countP_eq_length_filter, unbounded,
    List.flatMap_singleton]
  congr 1
  refine List.filter_congr fun row _ => ?_
  by_cases hbound : row.predicate.bound? = none
  · simp [hbound, row.bound_eq_none_iff.mp hbound]
  · simp [hbound, row.bound_eq_none_iff.not.mp hbound]

/-- A class has one warning if no row names it, and else one for each of its rows
without a value. -/
theorem Legend.class_faults_warn (name : String) :
    Warns ((unknown rows [name]).length + (unbounded rows [name]).length)
      ((Legend.ofRows rows).classFaults name) := by
  rw [classFaults, class_of_rows, unbounded_length]
  by_cases hnone : predicatesOf rows name = []
  · have hunknown : unknown rows [name] = [name] := by
      have hrows : ∀ row ∈ rows, row.className ≠ name := by simpa [predicatesOf] using hnone
      rw [unknown, List.filter_cons_of_pos (by simpa using hrows), List.filter_nil]
    rw [if_pos hnone, hunknown, hnone]
    exact .one rfl
  · have hunknown : unknown rows [name] = [] := by simpa [unknown, predicatesOf] using hnone
    rw [if_neg hnone, hunknown, List.length_nil, Nat.zero_add]
    constructor
    · rw [List.length_filterMap_eq_countP]
      refine List.countP_congr fun p _ => ?_
      cases p.bound? <;> simp
    · intro d hd
      obtain ⟨p, -, hp⟩ := List.mem_filterMap.mp hd
      split at hp
      · cases hp
        rfl
      · cases hp

theorem Legend.faults_warn (occurrences : List String) :
    Warns ((unknown rows occurrences).length + (unbounded rows occurrences).length)
      (occurrences.flatMap (Legend.ofRows rows).classFaults) := by
  induction occurrences with
  | nil => exact .none
  | cons name rest ih =>
    refine ((class_faults_warn rows name).append ih).of_count ?_
    simp only [unknown, unbounded, List.flatMap_cons, List.length_append, List.filter_cons]
    split <;> simp <;> omega

end Classifying

section Shaders

/-- The diagnostics of all shaders are those of the index of each layer and the coverage of each of
its biomes; tables raise none. -/
theorem LandCover.shader_diagnostics (cover : LandCover) (coverage : Option Coverage)
    (o : ShaderOptions) :
    (cover.allShaders coverage o).flatMap Shader.diagnostics = cover.layers.flatMap fun l =>
      (IndexProgram.compile l coverage).diagnostics ++
        l.biomes.flatMap fun b => (CoverageProgram.compile b coverage).diagnostics := by
  rw [allShaders, List.flatMap_assoc]
  congr 1
  funext l
  have hall := congrArg List.flatten (l.shader_diagnostics coverage o)
  rwa [← List.flatMap_def, List.flatten_cons, List.flatten_cons, List.nil_append,
    ← List.flatMap_def] at hall

/-- Without classification, each layer and each biome has a notice of the one reason. -/
theorem LandCover.fallback_notices (cover : LandCover) {coverage : Option Coverage}
    (o : ShaderOptions) {reason : FallbackReason} (h : Coverage.resolve coverage = .error reason) :
    (cover.allShaders coverage o).flatMap Shader.diagnostics =
      List.replicate (cover.layers.length + (cover.layers.flatMap Layer.biomes).length)
        (.fallback reason) := by
  have hbiomes (l : Layer) : (l.biomes.flatMap fun _ => [Diagnostic.fallback reason]) =
      List.replicate l.biomes.length (.fallback reason) := by
    rw [List.flatMap_def, List.map_const', List.flatten_replicate_singleton]
  rw [shader_diagnostics]
  simp only [IndexProgram.compile_eq, CoverageProgram.compile_eq, h, hbiomes, List.singleton_append,
    ← List.replicate_succ]
  induction cover.layers with
  | nil => rfl
  | cons l layers ih =>
    rw [List.flatMap_cons, ih, List.replicate_append_replicate]
    congr 1
    simp only [List.flatMap_cons, List.length_cons, List.length_append]
    omega

/-- With classification, what is wrong with the classes of a biome is told twice. -/
theorem LandCover.class_warnings (cover : LandCover) {coverage : Option Coverage}
    (o : ShaderOptions) {rows : List LegendRow} {binding : Binding}
    (h : Coverage.resolve coverage = .ok ⟨.ofRows rows, binding⟩) :
    let occurrences := (cover.layers.flatMap Layer.biomes).flatMap Biome.classes
    Warns (2 * ((LegendRow.unknown rows occurrences).length +
        (LegendRow.unbounded rows occurrences).length))
      ((cover.allShaders coverage o).flatMap Shader.diagnostics) := by
  intro occurrences
  have hfaults : (cover.layers.flatMap fun l =>
        l.biomes.flatMap fun b => ((Legend.ofRows rows).bounds b.classes).diagnostics) =
      occurrences.flatMap (Legend.ofRows rows).classFaults := by
    simp only [occurrences, List.flatMap_assoc, Legend.bounds]
  rw [shader_diagnostics]
  simp only [IndexProgram.compile_eq, CoverageProgram.diagnostics_compile h, h]
  exact .twice (hfaults ▸ Legend.faults_warn rows occurrences)

/-- What shaders raise, when their layers and biomes are those of a manifest. -/
theorem Manifest.shaders_warn {manifest : Manifest} {cover : LandCover} (o : ShaderOptions)
    (hlayers : cover.layers.length = manifest.layers.length)
    (hclasses : (manifest.biomes.map fun b => ClassList.names b.classes) =
      (cover.layers.flatMap Layer.biomes).map Biome.classes) :
    let ds := (cover.allShaders (some manifest.coverage) o).flatMap Shader.diagnostics
    warningCount ds = manifest.classWarnings ∧
      ds.filter (fun d => !d.isWarning) = manifest.notices := by
  intro ds
  have hbiomes : (cover.layers.flatMap Layer.biomes).length = manifest.biomes.length := by
    simpa using congrArg List.length hclasses.symm
  have hoccurrences : (cover.layers.flatMap Layer.biomes).flatMap Biome.classes =
      manifest.occurrences := by
    rw [List.flatMap_def, ← hclasses, ← List.flatMap_def, occurrences]
  have hfallback {reason : FallbackReason}
      (h : Coverage.resolve (some manifest.coverage) = .error reason) :
      warningCount ds = 0 ∧ ds.filter (fun d => !d.isWarning) =
        .replicate (manifest.layers.length + manifest.biomes.length) (.fallback reason) := by
    have hds : ds = _ := cover.fallback_notices o h
    rw [hds, hlayers, hbiomes]
    simp [warningCount, List.countP_replicate, Diagnostic.isWarning]
  cases hlegend : manifest.legend with
  | none =>
    simp only [classWarnings, notices, hlegend]
    exact hfallback (by simp [coverage, builtLegend, hlegend, Coverage.resolve])
  | some rows =>
    cases hbinding : manifest.binding with
    | none =>
      simp only [classWarnings, notices, hlegend, hbinding]
      exact hfallback (by simp [coverage, builtLegend, hlegend, hbinding, Coverage.resolve])
    | some binding =>
      have hresolve : Coverage.resolve (some manifest.coverage) = .ok ⟨.ofRows rows, binding⟩ := by
        simp [coverage, builtLegend, hlegend, hbinding, Coverage.resolve]
      have hwarns := cover.class_warnings o hresolve
      simp only [hoccurrences] at hwarns
      simp only [classWarnings, notices, hlegend, hbinding]
      exact ⟨hwarns.warning_count, hwarns.no_notices⟩

end Shaders

end Groundcover
