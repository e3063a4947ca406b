import Groundcover.Proofs.Agreement
import Groundcover.Proofs.Outline
import Mathlib.Logic.Equiv.Basic

/-!
Class names are read for two things only: to find the rows of a class, and to name it in a
diagnostic. So land cover under other names gets the same shaders, as long as each class keeps its
rows in their order. Where the rows of other classes stand between them does not matter.
-/

namespace Groundcover

open LegendRow

def Biome.renamed (f : String → String) (b : Biome) : Biome := { b with classes := b.classes.map f }

def Diagnostic.renamed (f : String → String) : Diagnostic → Diagnostic
  | unknownClass name => unknownClass (f name)
  | unboundedPredicate name => unboundedPredicate (f name)
  | other => other

def Diagnosed.renamed {α : Type} (f : String → String) (x : Diagnosed α) : Diagnosed α :=
  ⟨x.value, x.diagnostics.map (Diagnostic.renamed f)⟩

/-- The second layer lists other names where the first one lists classes, and is drawn alike. -/
structure Layer.Renames (f : String → String) (l l' : Layer) : Prop where
  params : l'.params = l.params
  biomes : l'.biomes = l.biomes.map (Biome.renamed f)

/-- The rows of each class are the rows of its new name, in their order. -/
def LegendRow.Renames (f : String → String) (rows rows' : List LegendRow) : Prop :=
  ∀ name, predicatesOf rows' (f name) = predicatesOf rows name

variable {f : String → String} {rows rows' : List LegendRow}

namespace Legend

theorem class_bounds_renamed (h : LegendRow.Renames f rows rows') (name : String) :
    (ofRows rows').classBounds (f name) = (ofRows rows).classBounds name := by
  rw [class_bounds_eq, class_bounds_eq, predicates_of_rows, predicates_of_rows, h name]

theorem class_faults_renamed (h : LegendRow.Renames f rows rows') (name : String) :
    (ofRows rows').classFaults (f name) =
      ((ofRows rows).classFaults name).map (Diagnostic.renamed f) := by
  rw [classFaults, classFaults, class_of_rows, class_of_rows, h name]
  by_cases hnone : predicatesOf rows name = []
  · rw [if_pos hnone, if_pos hnone]
    rfl
  · rw [if_neg hnone, if_neg hnone, List.map_filterMap]
    refine List.filterMap_congr fun p _ => ?_
    cases p.bound? <;> rfl

theorem bounds_renamed (h : LegendRow.Renames f rows rows') (b : Biome) :
    (ofRows rows').bounds (b.renamed f).classes = ((ofRows rows).bounds b.classes).renamed f := by
  simp only [bounds, Biome.renamed, Diagnosed.renamed, List.flatMap_map, List.map_flatMap,
    class_bounds_renamed h, class_faults_renamed h]

end Legend

section Programs

variable {l l' : Layer} (hrows : LegendRow.Renames f rows rows') (hlayers : l.Renames f l')
  (binding : Option Binding)
include hrows

theorem CoverageProgram.compile_renamed (b : Biome) :
    compile (b.renamed f) (some ⟨some (.ofRows rows'), binding⟩) =
      (compile b (some ⟨some (.ofRows rows), binding⟩)).renamed f := by
  cases binding with
  | none => rfl
  | some binding =>
    by_cases hc : b.classes = []
    · rw [compile_classless rfl _ (by simp [Biome.renamed, hc]), compile_classless rfl b hc]
      rfl
    · rw [compile_classes rfl _ (by simp [Biome.renamed, hc]), compile_classes rfl b hc,
        Legend.bounds_renamed hrows]
      rfl

theorem IndexProgram.arms_renamed (first : Nat) (biomes : List Biome) :
    arms (.ofRows rows') first (biomes.map (Biome.renamed f)) =
      arms (.ofRows rows) first biomes := by
  induction biomes generalizing first with
  | nil => rfl
  | cons b rest ih =>
    rw [List.map_cons, arms_cons, arms_cons, Legend.bounds_renamed hrows, ih]
    rfl

include hlayers in
theorem IndexProgram.compile_renamed :
    compile l' (some ⟨some (.ofRows rows'), binding⟩) =
      (compile l (some ⟨some (.ofRows rows), binding⟩)).renamed f := by
  cases binding with
  | none => rfl
  | some binding =>
    simp only [compile_eq, Coverage.resolve, hlayers.biomes, arms_renamed hrows, Diagnosed.renamed,
      List.flatMap_map, List.map_flatMap, Legend.bounds_renamed hrows]

end Programs

/-- Under new names for its classes, a layer has the same programs and the same shaders, if each
class has the same rows as under its old name. The diagnostics tell the new names. Nothing is asked
of the new names but that, so two classes with equal rows may even get one name. -/
theorem class_names_do_not_matter {f : String → String} {rows rows' : List LegendRow}
    (hrows : LegendRow.Renames f rows rows') {l l' : Layer} (hlayers : l.Renames f l')
    (binding : Option Binding) (o : ShaderOptions) :
    let source : Coverage := ⟨some (.ofRows rows), binding⟩
    let source' : Coverage := ⟨some (.ofRows rows'), binding⟩
    let shaders := (l.shaders source o).value.all
    let shaders' := (l'.shaders source' o).value.all
    IndexProgram.compile l' source' = (IndexProgram.compile l source).renamed f ∧
      (∀ b, CoverageProgram.compile (b.renamed f) source' =
        (CoverageProgram.compile b source).renamed f) ∧
      shaders'.map Shader.source = shaders.map Shader.source ∧
      shaders'.map Shader.fingerprint = shaders.map Shader.fingerprint ∧
      shaders'.map Shader.diagnostics =
        shaders.map fun s => s.diagnostics.map (Diagnostic.renamed f) := by
  intro source source' shaders shaders'
  have hindex : IndexProgram.compile l' source' = (IndexProgram.compile l source).renamed f :=
    IndexProgram.compile_renamed hrows hlayers binding
  have hcoverage (b : Biome) : CoverageProgram.compile (b.renamed f) source' =
      (CoverageProgram.compile b source).renamed f :=
    CoverageProgram.compile_renamed hrows binding b
  -- No name gets into tables, and into programs only the rows that were found by it.
  have htables : Tables.ofLayer l' = Tables.ofLayer l := by
    apply Tables.of_layer_of_sizes hlayers.params
    rw [hlayers.biomes, List.map_map]
    rfl
  have hsources : shaders'.map Shader.source = shaders.map Shader.source := by
    rw [Layer.shader_sources, Layer.shader_sources, htables, hindex, hlayers.biomes, List.map_map]
    simp only [Function.comp_def, hcoverage]
    rfl
  have hprints (shaders : List Shader) : shaders.map Shader.fingerprint =
      (shaders.map Shader.source).map Fingerprint.ofText := by
    rw [List.map_map]
    rfl
  refine ⟨hindex, hcoverage, hsources, by rw [hprints, hprints, hsources], ?_⟩
  have hold : (shaders.map fun s => s.diagnostics.map (Diagnostic.renamed f)) =
      (shaders.map Shader.diagnostics).map (List.map (Diagnostic.renamed f)) := by
    rw [List.map_map]
    rfl
  rw [hold, Layer.shader_diagnostics, Layer.shader_diagnostics, hindex, hlayers.biomes,
    List.map_map]
  simp only [Function.comp_def, hcoverage, List.map_cons, List.map_map, List.map_nil]
  rfl

/-- Two classes exchange their names, and their rows stand in another order. -/
theorem class_names_do_not_matter_exchange :
    let f := Equiv.swap "wood" "sand"
    let rows : List LegendRow := [⟨"wood", { min := some .one }⟩,
      ⟨"sand", { exact := some .zero }⟩, ⟨"wood", {}⟩]
    let rows' : List LegendRow := [⟨"wood", { exact := some .zero }⟩,
      ⟨"sand", { min := some .one }⟩, ⟨"sand", {}⟩]
    let l : Layer :=
      { name := "l", biomes := [{ classes := ["wood", "rock"] }, { classes := ["sand"] }] }
    let l' : Layer :=
      { name := "k", biomes := [{ classes := ["sand", "rock"] }, { classes := ["wood"] }] }
    let source : Coverage := ⟨some (.ofRows rows), some ⟨"s", "m"⟩⟩
    let source' : Coverage := ⟨some (.ofRows rows'), some ⟨"s", "m"⟩⟩
    Function.Injective f ∧ LegendRow.Renames f rows rows' ∧ l.Renames f l' ∧
      (l'.shaders source' {}).value.all.map Shader.source =
        (l.shaders source {}).value.all.map Shader.source ∧
      (IndexProgram.compile l' source').diagnostics =
        [.unboundedPredicate "sand", .unknownClass "rock"] := by
  intro f rows rows' l l' source source'
  have hrows : LegendRow.Renames f rows rows' := by
    intro name
    by_cases hwood : name = "wood"
    · subst hwood
      decide
    by_cases hsand : name = "sand"
    · subst hsand
      decide
    have hname : f name = name := Equiv.swap_apply_of_ne_of_ne hwood hsand
    simp [hname, rows, rows', predicatesOf, Ne.symm hwood, Ne.symm hsand]
  have hlayers : l.Renames f l' := ⟨rfl, by decide⟩
  obtain ⟨hindex, -, hsources, -, -⟩ := class_names_do_not_matter hrows hlayers (some ⟨"s", "m"⟩) {}
  refine ⟨f.injective, hrows, hlayers, hsources, ?_⟩
  rw [hindex]
  decide

end Groundcover
