import Groundcover.Proofs.Program

/-!
The index program of a layer and the coverage programs of its biomes are made apart from each other.
They agree all the same: on the reason when there is no classification, and else on bounds,
diagnostics and answers.
-/

namespace Groundcover

/-- What is missing from a source of coverage that is set up up to that point. -/
def FallbackReason.Explains (coverage : Option Coverage) : FallbackReason → Prop
  | noCoverage => coverage = none
  | noLegend => ∃ binding, coverage = some ⟨none, binding⟩
  | noClassificationLayer => ∃ legend, coverage = some ⟨some legend, none⟩

/-- A source of coverage lacks something that explains a fallback, or it has all it needs. -/
theorem Coverage.explained_or_resolved (coverage : Option Coverage) :
    (∃ reason : FallbackReason, reason.Explains coverage ∧
      Coverage.resolve coverage = .error reason) ∨
    (∃ legend binding, coverage = some ⟨some legend, some binding⟩ ∧
      Coverage.resolve coverage = .ok ⟨legend, binding⟩) := by
  rcases coverage with _ | ⟨_ | legend, binding⟩
  · exact .inl ⟨.noCoverage, rfl, rfl⟩
  · exact .inl ⟨.noLegend, ⟨binding, rfl⟩, rfl⟩
  · cases binding with
    | none => exact .inl ⟨.noClassificationLayer, ⟨legend, rfl⟩, rfl⟩
    | some binding => exact .inr ⟨legend, binding, rfl, rfl⟩

namespace CoverageProgram

/-- The bounds that a program tests, which are none unless it tests any. -/
def bounds : CoverageProgram → List Bound
  | fallback _ => []
  | acceptAll _ => []
  | test _ bounds => bounds

section Resolved

variable {coverage : Option Coverage} {legend : Legend} {binding : Binding}
  (h : Coverage.resolve coverage = .ok ⟨legend, binding⟩) (b : Biome)
include h

theorem compile_classless (hc : b.classes = []) :
    compile b coverage = ⟨.acceptAll binding, []⟩ := by
  simp [compile_eq, h, hc]

theorem compile_classes (hc : b.classes ≠ []) :
    compile b coverage =
      ⟨.test binding (legend.bounds b.classes).value, (legend.bounds b.classes).diagnostics⟩ := by
  simp [compile_eq, h, hc]

/-- A biome's program tests the bounds of its classes; without classes there are none. -/
theorem bounds_compile : (compile b coverage).value.bounds = (legend.bounds b.classes).value := by
  by_cases hc : b.classes = []
  · rw [compile_classless h b hc, hc]
    rfl
  · rw [compile_classes h b hc]
    rfl

theorem diagnostics_compile :
    (compile b coverage).diagnostics = (legend.bounds b.classes).diagnostics := by
  by_cases hc : b.classes = []
  · rw [compile_classless h b hc, hc]
    rfl
  · rw [compile_classes h b hc]

/-- The legend admits a sample for a biome's classes when there are some and its program accepts. -/
theorem admits_iff_accepts (s : Single) :
    legend.Admits s b.classes ↔ b.classes ≠ [] ∧ (compile b coverage).value.evaluate s = true := by
  by_cases hc : b.classes = []
  · simp [hc, Legend.admits_nil]
  · rw [compile_classes h b hc, evaluate_test]
    simp [hc]

end Resolved

end CoverageProgram

/-- Without classification, every program of a layer is the default for the one reason there is,
with one notice each. With it, the arms of the index program are the bounds of the coverage
programs under the numbers of their biomes, its diagnostics are theirs, and its answer is the least
biome that has classes and accepts the sample. -/
theorem index_agrees_with_coverage (layer : Layer) (coverage : Option Coverage)
    (h : layer.biomes.length < 0x80000000) :
    (∃ reason : FallbackReason, reason.Explains coverage ∧
      IndexProgram.compile layer coverage = ⟨.fallback reason, [.fallback reason]⟩ ∧
      ∀ b ∈ layer.biomes,
        CoverageProgram.compile b coverage = ⟨.fallback reason, [.fallback reason]⟩) ∨
    (∃ legend binding, coverage = some ⟨some legend, some binding⟩ ∧
      IndexProgram.compile layer coverage =
        ⟨.lookup binding (layer.biomes.zipIdx.flatMap fun (b, i) =>
            (CoverageProgram.compile b coverage).value.bounds.map fun bound => ⟨bound, i⟩),
          layer.biomes.flatMap fun b => (CoverageProgram.compile b coverage).diagnostics⟩ ∧
      ∀ (s : Single) (i : Nat), (IndexProgram.compile layer coverage).value.evaluate s = i ↔
        let Accepts (n : Nat) : Prop := ∃ b, layer.biomes[n]? = some b ∧ b.classes ≠ [] ∧
          (CoverageProgram.compile b coverage).value.evaluate s = true
        Accepts i ∧ ∀ j < i, ¬Accepts j) := by
  rcases Coverage.explained_or_resolved coverage with ⟨reason, hr, he⟩ | ⟨legend, binding, hc, he⟩
  · left
    refine ⟨reason, hr, by simp [IndexProgram.compile_eq, he], ?_⟩
    intro b _
    simp [CoverageProgram.compile_eq, he]
  · right
    have hindex : IndexProgram.compile layer coverage =
        ⟨.lookup binding (IndexProgram.arms legend 0 layer.biomes),
          layer.biomes.flatMap fun b => (legend.bounds b.classes).diagnostics⟩ := by
      simp [IndexProgram.compile_eq, he]
    refine ⟨legend, binding, hc, ?_, ?_⟩
    · rw [hindex]
      simp only [IndexProgram.arms, CoverageProgram.bounds_compile he,
        CoverageProgram.diagnostics_compile he]
    · intro s i
      have hleast := IndexProgram.evaluate_arms legend binding s h
      simp only [hindex, hleast.eq_iff i, CoverageProgram.admits_iff_accepts he]

/-- A class listed twice and one that is unknown, behind a biome without classes. -/
theorem index_agrees_with_coverage_repeats :
    let legend : Legend := .ofRows [⟨"forest", { exact := some .one }⟩, ⟨"forest", {}⟩]
    let coverage : Option Coverage := some ⟨some legend, some ⟨"s", "m"⟩⟩
    let layer : Layer := { name := "", biomes :=
      [{}, { classes := ["water", "forest", "forest"] }, { classes := ["forest"] }] }
    layer.biomes.length < 0x80000000 ∧
      (IndexProgram.compile layer coverage).diagnostics =
        layer.biomes.flatMap (fun b => (CoverageProgram.compile b coverage).diagnostics) ∧
      (IndexProgram.compile layer coverage).diagnostics.length = 4 := by
  intro legend coverage layer
  have hshort : layer.biomes.length < 0x80000000 := by decide
  rcases index_agrees_with_coverage layer coverage hshort with
    ⟨reason, hr, -⟩ | ⟨_, _, -, hindex, -⟩
  · cases reason <;> simp [FallbackReason.Explains, coverage] at hr
  · exact ⟨hshort, congrArg Diagnosed.diagnostics hindex, by decide⟩

end Groundcover
