import Groundcover.Proofs.Program

/-!
Classification stated by the rows of a legend: neither the registry of classes nor the arms of a
program are part of what it means for a sample to belong to a biome.
-/

namespace Groundcover

/-- What a row asks of a sample: its exact value if it has one, else to respect each limit that it
has, of which there must be one. A value that is not finite is not there. -/
def ValuePredicate.Accepts (s : Single) (p : ValuePredicate) : Prop :=
  (∃ v, finite p.exact = some v ∧ s.Equals v) ∨
    (finite p.exact = none ∧ (finite p.min ≠ none ∨ finite p.max ≠ none) ∧
      (∀ low, finite p.min = some low → low.AtMost s) ∧
      (∀ high, finite p.max = some high → s.AtMost high))

/-- Some class of the biome has a row that accepts the sample. -/
def Biome.Covers (rows : List LegendRow) (s : Single) (b : Biome) : Prop :=
  ∃ name ∈ b.classes, ∃ row ∈ rows, row.className = name ∧ row.predicate.Accepts s

namespace ValuePredicate

/-- The bound of a predicate decides what the predicate asks; without a bound nothing passes. -/
theorem accepts_iff_bound (s : Single) (p : ValuePredicate) :
    p.Accepts s ↔ ∃ b, p.bound? = some b ∧ b.admits s = true := by
  unfold Accepts bound?
  cases finite p.exact with
  | some v => simp [Bound.admits]
  | none =>
    cases finite p.min with
    | some low => cases finite p.max <;> simp [Bound.admits]
    | none => cases finite p.max <;> simp [Bound.admits]

theorem not_accepts_nan {s : Single} (hs : s.isNaN = true) (p : ValuePredicate) :
    ¬p.Accepts s := by
  have hne : s.isNaN ≠ false := by simp [hs]
  rintro (⟨v, -, hv⟩ | ⟨-, hset, hlow, hhigh⟩)
  · exact hne hv.1
  · rcases hset with hmin | hmax
    · obtain ⟨low, hl⟩ := Option.ne_none_iff_exists'.mp hmin
      exact hne (hlow low hl).2.1
    · obtain ⟨high, hh⟩ := Option.ne_none_iff_exists'.mp hmax
      exact hne (hhigh high hh).1

end ValuePredicate

open LegendRow ValuePredicate

/-- A legend made of rows admits a sample for some classes when a row of one of them accepts it. -/
theorem Legend.admits_rows {rows : List LegendRow} {s : Single} {b : Biome} :
    (ofRows rows).Admits s b.classes ↔ b.Covers rows s := by
  simp only [admits_iff, predicates_of_rows, predicatesOf, List.mem_map, List.mem_filter,
    decide_eq_true_eq, Biome.Covers, accepts_iff_bound]
  constructor
  · rintro ⟨name, hn, p, ⟨row, ⟨hrow, hname⟩, rfl⟩, hb⟩
    exact ⟨name, hn, row, hrow, hname, hb⟩
  · rintro ⟨name, hn, row, hrow, hname, hb⟩
    exact ⟨name, hn, row.predicate, ⟨row, ⟨hrow, hname⟩, rfl⟩, hb⟩

/-- Programs classify as the rows of the legend say. The index is the least biome that covers the
sample, so a biome without classes is never given and a NaN has no biome; a coverage program accepts
what its biome covers, and everything for a biome without classes. -/
theorem classified_by_rows (rows : List LegendRow) (binding : Binding) (layer : Layer)
    (h : layer.biomes.length < 0x80000000) (s : Single) :
    let source : Coverage := ⟨some (Legend.ofRows rows), some binding⟩
    let index := (IndexProgram.compile layer (some source)).value.evaluate s
    Least (fun i => ∃ b, layer.biomes[i]? = some b ∧ b.Covers rows s) index ∧
      (s.isNaN = true → index = -1) ∧
      ∀ b : Biome, (CoverageProgram.compile b (some source)).value.evaluate s = true ↔
        b.classes = [] ∨ b.Covers rows s := by
  intro source index
  have hresolved : Coverage.resolve (some source) = .ok ⟨Legend.ofRows rows, binding⟩ := rfl
  have hprogram : index = (IndexProgram.lookup binding
      (IndexProgram.arms (Legend.ofRows rows) 0 layer.biomes)).evaluate s :=
    congrArg (IndexProgram.evaluate s ·.value) (IndexProgram.compile_resolved hresolved layer)
  have hleast : Least (fun i => ∃ b, layer.biomes[i]? = some b ∧ b.Covers rows s) index := by
    rw [hprogram]
    apply (IndexProgram.evaluate_arms (Legend.ofRows rows) binding s h).congr
    intro i
    simp only [Legend.admits_rows]
  refine ⟨hleast, ?_, ?_⟩
  · intro hs
    rcases hleast with ⟨i, -, ⟨b, -, hb⟩, -⟩ | ⟨hnone, -⟩
    · obtain ⟨name, -, row, -, -, haccepts⟩ := hb
      exact absurd haccepts (not_accepts_nan hs row.predicate)
    · exact hnone
  · intro b
    rw [← Legend.admits_rows]
    by_cases hc : b.classes = []
    · simp [source, CoverageProgram.compile_eq, Coverage.resolve, hc, CoverageProgram.evaluate]
    · have hprogram : (CoverageProgram.compile b (some source)).value =
          .test binding ((Legend.ofRows rows).bounds b.classes).value := by
        simp [source, CoverageProgram.compile_eq, Coverage.resolve, hc]
      rw [hprogram, CoverageProgram.evaluate_test]
      simp [hc]

/-- A biome without classes and one whose class has no usable row stand before two that overlap. -/
theorem classified_by_rows_overlap :
    let rows : List LegendRow :=
      [⟨"forest", { min := some .one, max := some (.infinity false) }⟩,
        ⟨"water", { exact := some (.quietNaN false) }⟩, ⟨"forest", { exact := some .zero }⟩]
    let layer : Layer := { name := "", biomes := [{}, { classes := ["water"] },
      { classes := ["water", "forest"] }, { classes := ["forest"] }] }
    layer.biomes.length < 0x80000000 ∧
      Least (fun i => ∃ b, layer.biomes[i]? = some b ∧ b.Covers rows .zero) 2 := by
  intro rows layer
  have hshort : layer.biomes.length < 0x80000000 := by decide
  have hindex : (IndexProgram.compile layer
      (some ⟨some (Legend.ofRows rows), some ⟨"s", "m"⟩⟩)).value.evaluate .zero = 2 := by decide
  exact ⟨hshort, hindex ▸ (classified_by_rows rows ⟨"s", "m"⟩ layer hshort .zero).1⟩

end Groundcover
