import Groundcover.Proofs.Agreement
import Groundcover.Proofs.LayerShaders
import Groundcover.Proofs.Shader.ProgramSource
import Groundcover.Proofs.Single.Nearest

/-!
The numbers in generated source. An infinity or a NaN has letters where other numbers have digits,
so source that shows one cannot be read back. None gets there: parameters and sizes were checked
when land cover was built, and limits when a legend was turned into bounds.
-/

namespace Groundcover

open Source

namespace Single

/-- The literal is made of a sign, digits, a point and digits. -/
def IsDecimal (x : Single) : Prop :=
  ∃ (negative : Bool) (whole places : List Char), IsNumeral whole ∧ IsNumeral places ∧
    x.literal.toList = (if negative then ['-'] else []) ++ (whole ++ '.' :: places)

theorem decimal_of_finite {x : Single} (h : x.isFinite = true) : x.IsDecimal := by
  obtain ⟨whole, places, hwhole, hplaces, hdigits, htext, -⟩ := literal_shape h
  refine ⟨x.isNegative, whole, places, ⟨hwhole, ?_⟩, ⟨hplaces, ?_⟩, htext⟩
  · intro c hc
    exact hdigits c (List.mem_append_left _ hc)
  · intro c hc
    exact hdigits c (List.mem_append_right _ hc)

theorem IsDecimal.chars {x : Single} (h : x.IsDecimal) :
    ∀ c ∈ x.literal.toList, c = '-' ∨ c = '.' ∨ c.isDigit = true := by
  obtain ⟨negative, whole, places, hwhole, hplaces, htext⟩ := h
  intro c hc
  rw [htext] at hc
  rcases List.mem_append.mp hc with hc | hc
  · cases negative with
    | false => cases hc
    | true => exact .inl (List.mem_singleton.mp hc)
  · rcases List.mem_append.mp hc with hc | hc
    · exact .inr (.inr (hwhole.2 c hc))
    · rcases List.mem_cons.mp hc with hc | hc
      · exact .inr (.inl hc)
      · exact .inr (.inr (hplaces.2 c hc))

theorem magnitude_in_literal (x : Single) : ∀ c ∈ x.magnitudeText, c ∈ x.literal.toList := by
  intro c hc
  have htext : c ∈ x.text.toList := by
    rw [text, String.toList_ofList]
    split
    · exact List.mem_cons_of_mem _ hc
    · exact hc
  rw [literal]
  split
  · exact htext
  · rw [String.toList_append]
    exact List.mem_append_left _ htext

theorem magnitude_of_not_finite {x : Single} (h : x.isFinite = false) :
    x.magnitudeText = ['N', 'a', 'N'] ∨ x.magnitudeText = ['i', 'n', 'f'] := by
  -- Behind the finite numbers stands infinity at the top rank, and every NaN beyond it.
  have hrank : topRank ≤ x.rank := by
    by_contra hlt
    rw [is_finite_of_rank (Nat.not_le.mp hlt)] at h
    cases h
  by_cases hnan : x.isNaN = true
  · simp [magnitudeText, hnan]
  · have hle : x.rank ≤ topRank := by simpa [isNaN, topRank] using hnan
    simp [magnitudeText, hnan, Nat.le_antisymm hle hrank]

/-- What is not finite is written with letters. -/
theorem letter_of_not_finite {x : Single} (h : x.isFinite = false) :
    'N' ∈ x.literal.toList ∨ 'n' ∈ x.literal.toList := by
  rcases magnitude_of_not_finite h with htext | htext
  · exact .inl (x.magnitude_in_literal 'N' (by simp [htext]))
  · exact .inr (x.magnitude_in_literal 'n' (by simp [htext]))

/-- A literal is a decimal exactly when its number is finite. -/
theorem decimal_iff_finite (x : Single) : x.IsDecimal ↔ x.isFinite = true := by
  refine ⟨fun h => ?_, decimal_of_finite⟩
  by_contra hfinite
  rcases letter_of_not_finite (Bool.eq_false_iff.mpr hfinite) with hmem | hmem
  · exact absurd (h.chars 'N' hmem) (by decide)
  · exact absurd (h.chars 'n' hmem) (by decide)

end Single

namespace LayerParams

theorem sanitized_of_valid {p : LayerParams} (hdensity : p.HasDensity) (hfill : p.HasFill) :
    p.sanitized = p := by
  simp [sanitized, hdensity, hfill]

theorem no_resets_of_valid {p : LayerParams} (hdensity : p.HasDensity) (hfill : p.HasFill) :
    p.resets = [] := by
  simp [resets, hdensity, hfill]

end LayerParams

namespace Tables

/-- The numbers with a fraction in the rows of both tables. -/
def numbers (t : Tables) : List Single :=
  (t.biomes.flatMap fun r => [r.density, r.fill]) ++
    t.billboards.flatMap fun r => [r.width, r.height]

theorem IsFinite.shown {t : Tables} (h : t.IsFinite) : t.shown.IsFinite := by
  constructor
  · exact shown_rows_all _ ⟨rfl, rfl⟩ h.biomes
  · exact shown_rows_all _ ⟨rfl, rfl⟩ h.billboards

theorem IsFinite.numbers {t : Tables} (h : t.IsFinite) : ∀ x ∈ t.numbers, x.isFinite = true := by
  intro x hx
  rcases List.mem_append.mp hx with hx | hx
  · obtain ⟨r, hr, hx⟩ := List.mem_flatMap.mp hx
    obtain ⟨hdensity, hfill⟩ := h.biomes r hr
    rcases List.mem_pair.mp hx with rfl | rfl
    · exact hdensity
    · exact hfill
  · obtain ⟨r, hr, hx⟩ := List.mem_flatMap.mp hx
    obtain ⟨hwidth, hheight⟩ := h.billboards r hr
    rcases List.mem_pair.mp hx with rfl | rfl
    · exact hwidth
    · exact hheight

end Tables

def IndexProgram.bounds : IndexProgram → List Bound
  | fallback _ => []
  | lookup _ arms => arms.map Arm.bound

theorem IndexProgram.bounds_are_finite (layer : Layer) (coverage : Option Coverage) :
    ∀ b ∈ (compile layer coverage).value.bounds, b.IsFinite := by
  rw [compile_eq]
  cases Coverage.resolve coverage with
  | error reason => exact nofun
  | ok source =>
    intro b hb
    obtain ⟨arm, harm, rfl⟩ := List.mem_map.mp hb
    obtain ⟨⟨biome, i⟩, -, harm⟩ := List.mem_flatMap.mp harm
    obtain ⟨bound, hbound, rfl⟩ := List.mem_map.mp harm
    exact source.legend.bounds_are_finite biome.classes bound hbound

theorem CoverageProgram.bounds_are_finite (biome : Biome) (coverage : Option Coverage) :
    ∀ b ∈ (compile biome coverage).value.bounds, b.IsFinite := by
  have hwritable := compile_is_writable biome coverage
  cases hprogram : (compile biome coverage).value with
  | fallback reason => exact nofun
  | acceptAll binding => exact nofun
  | test binding bounds =>
    rw [hprogram] at hwritable
    exact hwritable

namespace Source

variable {α : Type}

/-- A number with a sign, however large. -/
def Reader.integer : Reader Int := do
  let negative ← minus
  let magnitude ← number
  return if negative then -magnitude else magnitude

theorem Reads.integer (negative : Bool) {n : Nat} {value : Int}
    (hvalue : (if negative then -(n : Int) else n) = value) :
    Reads NoDigit Reader.integer ((if negative then ['-'] else []) ++ (toString n).toList)
      value := by
  have hnumber := map (fun n : Nat => if negative then -(n : Int) else n) (number n)
  rw [← List.append_nil (toString n).toList]
  refine signed negative (numeral_to_string n) ?_
  rw [List.append_nil, ← hvalue]
  exact hnumber

/-- The numbers that samples are compared with. -/
def Body.numbers (body : Body α) : List Single :=
  body.branches.flatMap fun b => b.condition.map Comparison.value

theorem Branch.condition_of_bound {b : Branch α} {bound : Bound} (h : b.bound? = some bound) :
    b.condition = bound.comparisons := by
  unfold bound? at h
  split at h
  · rename_i v hcondition
    cases h
    exact hcondition
  · rename_i low high hcondition
    cases h
    exact hcondition
  · rename_i low hcondition
    cases h
    exact hcondition
  · rename_i high hcondition
    cases h
    exact hcondition
  · cases h

theorem Body.guarded {body : Body α} {guards : List (Bound × α)} (h : body.guards? = some guards) :
    ∀ b ∈ body.branches, ∃ guard ∈ guards, b.condition = guard.1.comparisons := by
  obtain ⟨branches, otherwise⟩ := body
  simp only [guards?] at h ⊢
  induction branches generalizing guards with
  | nil => exact nofun
  | cons first rest ih =>
    rw [List.mapM_cons] at h
    obtain ⟨guard, hguard, h⟩ := Option.bind_eq_some_iff.mp h
    obtain ⟨others, hothers, h⟩ := Option.bind_eq_some_iff.mp h
    obtain rfl := Option.some.inj h
    obtain ⟨bound, hbound, rfl⟩ := Option.map_eq_some_iff.mp hguard
    rw [List.forall_mem_cons]
    refine ⟨⟨_, List.mem_cons_self, Branch.condition_of_bound hbound⟩, ?_⟩
    intro b hb
    obtain ⟨other, hother, hcondition⟩ := ih hothers b hb
    exact ⟨other, List.mem_cons_of_mem _ hother, hcondition⟩

theorem Body.numbers_finite {body : Body α} {guards : List (Bound × α)}
    (h : body.guards? = some guards) (hfinite : ∀ guard ∈ guards, guard.1.IsFinite) :
    ∀ x ∈ body.numbers, x.isFinite = true := by
  intro x hx
  obtain ⟨b, hb, hx⟩ := List.mem_flatMap.mp hx
  obtain ⟨guard, hguard, hcondition⟩ := Body.guarded h b hb
  rw [hcondition] at hx
  obtain ⟨c, hc, rfl⟩ := List.mem_map.mp hx
  exact hfinite guard hguard c hc

open ProgramSource in
/-- Generated source with all the numbers that reading it to its end meets. A function begins with a
header in which no number depends on the land cover; default functions have no numbers. -/
inductive Shows (o : ShaderOptions) : Option Binding → String → List Single → Prop
  | tables {binding : Option Binding} {source : String} {t : Tables}
    (h : (Reader.tables o).whole? source.toList = some t) : Shows o binding source t.numbers
  | index {binding : Binding} {source : String} {body : Body Int}
    (h : Reader.bodyAfter? (indexHeader o binding) .integer source = some body) :
    Shows o (some binding) source body.numbers
  | acceptAll {binding : Binding} {source : String} {body : Body Bool}
    (h : Reader.bodyAfter? (coverageHeader o binding) .boolean source = some body) :
    Shows o (some binding) source body.numbers
  | test {binding : Binding} {source : String} {body : Body Bool}
    (h : Reader.bodyAfter? (testHeader o binding) .boolean source = some body) :
    Shows o (some binding) source body.numbers
  | defaultIndex {binding : Option Binding} : Shows o binding o.defaultIndex []
  | defaultCoverage {binding : Option Binding} : Shows o binding o.defaultCoverage []

/-- Source all of whose numbers are finite and stand there as decimals. -/
def InDecimals (o : ShaderOptions) (binding : Option Binding) (source : String) : Prop :=
  ∃ numbers, Shows o binding source numbers ∧ ∀ x ∈ numbers, x.isFinite = true ∧ x.IsDecimal

theorem Shows.in_decimals {o : ShaderOptions} {binding : Option Binding} {source : String}
    {numbers : List Single} (h : Shows o binding source numbers)
    (hfinite : ∀ x ∈ numbers, x.isFinite = true) : InDecimals o binding source := by
  refine ⟨numbers, h, fun x hx => ⟨hfinite x hx, ?_⟩⟩
  exact x.decimal_iff_finite.mpr (hfinite x hx)

end Source

section Sources

variable (o : ShaderOptions)

theorem IndexProgram.lookup_in_decimals (binding : Binding) {arms : List Arm}
    (h : ∀ arm ∈ arms, arm.bound.IsFinite) :
    InDecimals o (some binding) ((lookup binding arms).source o) := by
  have hlast : Reads NoDigit Reader.integer "-1".toList (-1) := Reads.integer true (n := 1) rfl
  rw [source_lookup]
  obtain ⟨body, hread, hguards, -, -⟩ := means_of_lines (ProgramSource.indexHeader o binding) arms
    Arm.bound (fun arm => toString arm.result) (fun arm => (arm.result : Int)) h
    (fun arm _ => Reads.integer false rfl) hlast
  refine (Shows.index hread).in_decimals (Body.numbers_finite hguards ?_)
  intro guard hguard
  obtain ⟨arm, harm, rfl⟩ := List.mem_map.mp hguard
  exact h arm harm

theorem CoverageProgram.test_in_decimals (binding : Binding) {bounds : List Bound}
    (h : ∀ b ∈ bounds, b.IsFinite) :
    InDecimals o (some binding) ((test binding bounds).source o) := by
  obtain ⟨body, hread, hguards, -, -⟩ :=
    source_means_test o (show (test binding bounds).IsWritable from h)
  refine (Shows.test hread).in_decimals (Body.numbers_finite hguards ?_)
  intro guard hguard
  obtain ⟨b, hb, rfl⟩ := List.mem_map.mp hguard
  exact h b hb

theorem CoverageProgram.accept_all_in_decimals (binding : Binding) :
    InDecimals o (some binding) ((acceptAll binding).source o) := by
  obtain ⟨body, hread, hguards, -, -⟩ := source_means_accept_all o binding
  exact (Shows.acceptAll hread).in_decimals (Body.numbers_finite hguards nofun)

variable (coverage : Option Coverage)

theorem IndexProgram.compile_in_decimals (l : Layer) :
    InDecimals o (coverage.bind Coverage.binding) ((compile l coverage).value.source o) := by
  have hfinite := bounds_are_finite l coverage
  rcases Coverage.explained_or_resolved coverage with ⟨reason, -, he⟩ | ⟨legend, binding, rfl, he⟩
  · simp only [compile_eq, he]
    exact Shows.defaultIndex.in_decimals (List.forall_mem_nil _)
  · simp only [compile_eq, he] at hfinite ⊢
    apply lookup_in_decimals
    intro arm harm
    exact hfinite arm.bound (List.mem_map_of_mem harm)

theorem CoverageProgram.compile_in_decimals (b : Biome) :
    InDecimals o (coverage.bind Coverage.binding) ((compile b coverage).value.source o) := by
  rcases Coverage.explained_or_resolved coverage with ⟨reason, -, he⟩ | ⟨legend, binding, rfl, he⟩
  · simp only [compile_eq, he]
    exact Shows.defaultCoverage.in_decimals (List.forall_mem_nil _)
  · by_cases hc : b.classes = []
    · rw [compile_classless he b hc]
      exact accept_all_in_decimals o binding
    · rw [compile_classes he b hc]
      exact test_in_decimals o binding (legend.bounds_are_finite b.classes)

theorem Layer.Drawable.shaders_in_decimals {l : Layer} (h : l.Drawable) :
    ∀ shader ∈ (l.shaders coverage o).value.all,
      InDecimals o (coverage.bind Coverage.binding) shader.source := by
  intro shader hshader
  rcases List.mem_cons.mp hshader with rfl | hshader
  · have hread := Tables.source_reads o h.tables_are_finite
    rw [← l.tables_source coverage o] at hread
    exact (Shows.tables hread).in_decimals h.tables_are_finite.shown.numbers
  rcases List.mem_cons.mp hshader with rfl | hshader
  · exact IndexProgram.compile_in_decimals o coverage l
  · obtain ⟨⟨b, i⟩, -, rfl⟩ := List.mem_map.mp hshader
    exact CoverageProgram.compile_in_decimals o coverage b

end Sources

/-- Whatever numbers a manifest has, those of a layer that was built from it are in range: density
and fill, the sizes of billboards, and the limits of its programs. So every number in its shaders is
a finite decimal. Nothing is left to put back, and parameters without a range are as they were. -/
theorem numbers_stay_in_range {σ : Type} (load : ImageLoader (StateT σ Logged))
    (manifest : Manifest) (start : σ) {made : Diagnosed LandCover}
    (hmade : ((LandCover.ofManifest load manifest).run start).value.1 = .ok made)
    {i : Nat} {layer : Layer} (hlayer : made.value.layers[i]? = some layer) (o : ShaderOptions) :
    let coverage := some manifest.coverage
    layer.Drawable ∧
      (∀ b ∈ (IndexProgram.compile layer coverage).value.bounds, b.IsFinite) ∧
      (∀ biome ∈ layer.biomes, ∀ b ∈ (CoverageProgram.compile biome coverage).value.bounds,
        b.IsFinite) ∧
      (∀ shader ∈ (layer.shaders coverage o).value.all,
        InDecimals o manifest.binding shader.source) ∧
      layer.params.resets = [] ∧ layer.params.sanitized = layer.params ∧
      ∃ entry, manifest.layers[i]? = some entry ∧ layer.params =
        { entry.params with density := layer.params.density, fill := layer.params.fill } := by
  intro coverage
  obtain ⟨layers, rfl, hlayers⟩ := LandCover.layers_of_manifest load manifest start made hmade
  rw [LandCover.assembled, List.getElem?_map] at hlayer
  obtain ⟨configured, hconfigured, rfl⟩ := Option.map_eq_some_iff.mp hlayer
  obtain ⟨entry, hentry, hbecomes⟩ := source_of_forall₂ hlayers hconfigured
  have hdrawable := hbecomes.drawable
  refine ⟨hdrawable, IndexProgram.bounds_are_finite _ _, ?_, ?_, ?_, ?_, entry, hentry, ?_⟩
  · exact fun biome _ => CoverageProgram.bounds_are_finite biome coverage
  · exact hdrawable.shaders_in_decimals o coverage
  · exact LayerParams.no_resets_of_valid hdrawable.density hdrawable.fill
  · exact LayerParams.sanitized_of_valid hdrawable.density hdrawable.fill
  · rw [hbecomes.2.1]
    rfl

/-- A NaN and infinities in the parameters, in the legend and in the library. The billboard with
sizes of its own is kept, and the one that takes those of its resource is not. -/
theorem numbers_stay_in_range_hostile :
    let load : ImageLoader (StateT Unit Logged) := fun _ state => ⟨(.ok default, state), []⟩
    let params : LayerParams :=
      { density := .quietNaN true, fill := .infinity true, wind := .quietNaN false }
    let oak : BillboardSymbol := { resource := some "oak" }
    let sized : BillboardSymbol := { oak with width := some .one, height := some .one }
    let manifest : Manifest :=
      { library := some { resources := [⟨"oak", "o", .quietNaN false, .infinity false⟩] }
        legend := some [⟨"wood", ⟨some (.quietNaN false), some .one, some (.infinity false)⟩⟩]
        binding := some ⟨"s", "m"⟩
        layers := [{ params := params
                     biomes := [⟨"wood", [.billboard oak, .billboard sized]⟩] }] }
    ∃ made layer, ((LandCover.ofManifest load manifest).run ()).value.1 = .ok made ∧
      made.value.layers[0]? = some layer ∧ layer.totalBillboards = 1 ∧ layer.Drawable ∧
      layer.params.resets = [] ∧ layer.params = { wind := .quietNaN false } ∧
      ∀ shader ∈ (layer.shaders manifest.coverage {}).value.all,
        InDecimals {} manifest.binding shader.source := by
  intro load params oak sized manifest
  refine ⟨_, _, rfl, rfl, by decide, ?_⟩
  obtain ⟨hdrawable, -, -, hshaders, hresets, -, -⟩ :=
    numbers_stay_in_range load manifest () rfl (i := 0) rfl {}
  exact ⟨hdrawable, hresets, by decide, hshaders⟩

end Groundcover
