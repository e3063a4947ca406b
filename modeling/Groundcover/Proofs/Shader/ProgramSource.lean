import Groundcover.Proofs.Program
import Groundcover.Proofs.Shader.Statements

/-!
The source of classification programs means what the programs evaluate to, for all programs that can
be written: limits have to be finite and results have to fit into an `int`, which holds of every
program that comes from a layer.
-/

namespace Groundcover

open Source

namespace ProgramSource

/-- The source of an index function in front of its guards. -/
def indexHeader (o : ShaderOptions) (b : Binding) : String :=
  unlines (headerLines o b ++ [signature "int" (o.declared .biomeIndex), sampleLine b])

/-- The source of a coverage function in front of its statements. -/
def coverageHeader (o : ShaderOptions) (b : Binding) : String :=
  unlines (headerLines o b ++ [signature "bool" (o.declared .coverage)])

/-- The source of a coverage function that tests a sample, in front of its guards. -/
def testHeader (o : ShaderOptions) (b : Binding) : String :=
  unlines (headerLines o b ++ [signature "bool" (o.declared .coverage), sampleLine b])

end ProgramSource

namespace IndexProgram

/-- A program without limits and results that source cannot state. -/
def IsWritable : IndexProgram → Prop
  | fallback _ => True
  | lookup _ arms => ∀ arm ∈ arms, arm.bound.IsFinite ∧ arm.result < 0x80000000

instance (binding : Binding) (arms : List Arm) : Decidable (lookup binding arms).IsWritable :=
  inferInstanceAs (Decidable (∀ arm ∈ arms, arm.bound.IsFinite ∧ arm.result < 0x80000000))

end IndexProgram

namespace CoverageProgram

/-- A coverage program without limits that source cannot state. -/
def IsWritable : CoverageProgram → Prop
  | fallback _ => True
  | acceptAll _ => True
  | test _ bounds => ∀ b ∈ bounds, b.IsFinite

end CoverageProgram

theorem ValuePredicate.bound_is_finite {p : ValuePredicate} {b : Bound} (h : p.bound? = some b) :
    b.IsFinite := by
  have hfinite {v : Option Single} {x : Single} (hx : finite v = some x) : x.isFinite = true :=
    (Option.filter_eq_some_iff.mp hx).2
  unfold bound? at h
  split at h
  · rename_i v _ _ hv
    obtain rfl := Option.some.inj h
    simpa [Bound.IsFinite, Bound.comparisons] using hfinite hv
  · rename_i low high _ hlow hhigh
    obtain rfl := Option.some.inj h
    simpa [Bound.IsFinite, Bound.comparisons] using ⟨hfinite hlow, hfinite hhigh⟩
  · rename_i low _ hlow _
    obtain rfl := Option.some.inj h
    simpa [Bound.IsFinite, Bound.comparisons] using hfinite hlow
  · rename_i high _ _ hhigh
    obtain rfl := Option.some.inj h
    simpa [Bound.IsFinite, Bound.comparisons] using hfinite hhigh
  · cases h

theorem Legend.bounds_are_finite (l : Legend) (classes : List String) :
    ∀ b ∈ (l.bounds classes).value, b.IsFinite := by
  intro b hb
  obtain ⟨name, -, hb⟩ := List.mem_flatMap.mp hb
  rw [class_bounds_eq] at hb
  obtain ⟨p, -, hb⟩ := List.mem_filterMap.mp hb
  exact ValuePredicate.bound_is_finite hb

namespace IndexProgram

theorem compile_is_writable (layer : Layer) (coverage : Option Coverage)
    (h : layer.biomes.length < 0x80000000) : (compile layer coverage).value.IsWritable := by
  rw [compile_eq]
  cases Coverage.resolve coverage with
  | error reason => trivial
  | ok source =>
    intro arm harm
    obtain ⟨⟨b, i⟩, hb, harm⟩ := List.mem_flatMap.mp harm
    obtain ⟨bound, hbound, rfl⟩ := List.mem_map.mp harm
    have hi := List.snd_lt_of_mem_zipIdx hb
    exact ⟨source.legend.bounds_are_finite b.classes bound hbound, by simpa using by omega⟩

theorem source_lookup (o : ShaderOptions) (binding : Binding) (arms : List Arm) :
    (lookup binding arms).source o = ProgramSource.indexHeader o binding ++
      unlines (arms.map (fun arm => ProgramSource.armLine arm.bound (toString arm.result)) ++
        [ProgramSource.returnLine "-1", "\x7d"]) := by
  rw [ProgramSource.indexHeader, ← unlines_append]
  simp [source, ProgramSource.indexBody]

theorem source_means_lookup (o : ShaderOptions) {binding : Binding} {arms : List Arm}
    (h : (lookup binding arms).IsWritable) :
    Means ((lookup binding arms).source o) (ProgramSource.indexHeader o binding) .int32
      (arms.map fun arm => (arm.bound, (arm.result : Int))) (-1)
      (lookup binding arms).evaluate := by
  have hanswers (s : Single) : (lookup binding arms).evaluate s =
      ((arms.find? fun arm => arm.bound.admits s).map fun arm => (arm.result : Int)).getD (-1) := by
    cases harm : arms.find? fun arm => arm.bound.admits s with
    | none => simp only [evaluate, harm, Option.map_none, Option.getD_none]
    | some arm =>
      simp only [evaluate, harm, Option.map_some, Option.getD_some]
      exact as_int32_small (h arm (List.mem_of_find?_eq_some harm)).2
  rw [source_lookup, funext hanswers]
  refine means_of_lines _ arms Arm.bound (fun arm => toString arm.result) _
    (fun arm harm => (h arm harm).1) ?_ ?_
  · intro arm harm
    have hsmall := (h arm harm).2
    exact Reads.int32 false rfl (by omega)
  · exact Reads.int32 true (n := 1) rfl (by omega)

end IndexProgram

namespace CoverageProgram

theorem compile_is_writable (b : Biome) (coverage : Option Coverage) :
    (compile b coverage).value.IsWritable := by
  rw [compile_eq]
  cases Coverage.resolve coverage with
  | error reason => trivial
  | ok source =>
    by_cases hc : b.classes.isEmpty
    · simp [hc, IsWritable]
    · simpa [hc, IsWritable] using source.legend.bounds_are_finite b.classes

theorem source_test (o : ShaderOptions) (binding : Binding) (bounds : List Bound) :
    (test binding bounds).source o = ProgramSource.testHeader o binding ++
      unlines (bounds.map (fun b => ProgramSource.armLine b "true") ++
        [ProgramSource.returnLine "false", "\x7d"]) := by
  rw [ProgramSource.testHeader, ← unlines_append]
  simp [source, ProgramSource.coverageBody]

theorem source_accept_all (o : ShaderOptions) (binding : Binding) :
    (acceptAll binding).source o = ProgramSource.coverageHeader o binding ++
      unlines [ProgramSource.returnLine "true", "\x7d"] := by
  rw [ProgramSource.coverageHeader, ← unlines_append]
  simp [source]

theorem source_means_test (o : ShaderOptions) {binding : Binding} {bounds : List Bound}
    (h : (test binding bounds).IsWritable) :
    Means ((test binding bounds).source o) (ProgramSource.testHeader o binding) .boolean
      (bounds.map fun b => (b, true)) false (test binding bounds).evaluate := by
  have hanswers (s : Single) : (test binding bounds).evaluate s =
      ((bounds.find? fun b => b.admits s).map fun _ => true).getD false := by
    rw [evaluate, ← List.isSome_find?]
    cases bounds.find? fun b => b.admits s <;> rfl
  rw [source_test, funext hanswers]
  exact means_of_lines _ bounds id (fun _ => "true") (fun _ => true) h
    (fun _ _ => (Reads.boolean true).anywhere) (Reads.boolean false).anywhere

theorem source_means_accept_all (o : ShaderOptions) (binding : Binding) :
    Means ((acceptAll binding).source o) (ProgramSource.coverageHeader o binding) .boolean
      [] true (acceptAll binding).evaluate := by
  rw [source_accept_all]
  exact means_of_lines _ [] id (fun _ => "true") (fun _ => true) nofun nofun
    (Reads.boolean true).anywhere

end CoverageProgram

open ProgramSource in
/-- Reading the source of a program that can be written gives back its bounds and results in order,
and running what was read answers every sample as the program does; what stands in front depends on
the options and the binding only. The source without bounds is fixed, with a sample or without
classification at all. Every program of a layer with fewer than 2^31 biomes can be written. -/
theorem source_means_program (o : ShaderOptions) :
    (∀ binding arms, (IndexProgram.lookup binding arms).IsWritable →
      Means ((IndexProgram.lookup binding arms).source o) (indexHeader o binding) .int32
        (arms.map fun arm => (arm.bound, (arm.result : Int))) (-1)
        (IndexProgram.lookup binding arms).evaluate) ∧
    (∀ binding bounds, (CoverageProgram.test binding bounds).IsWritable →
      Means ((CoverageProgram.test binding bounds).source o) (testHeader o binding) .boolean
        (bounds.map fun b => (b, true)) false (CoverageProgram.test binding bounds).evaluate) ∧
    (∀ binding, (CoverageProgram.acceptAll binding).source o =
        coverageHeader o binding ++ "    return true;\n\x7d\n" ∧
      Means ((CoverageProgram.acceptAll binding).source o) (coverageHeader o binding) .boolean
        [] true (CoverageProgram.acceptAll binding).evaluate) ∧
    (∀ reason, (IndexProgram.fallback reason).source o = "#version " ++ toString o.version.toNat ++
        "\nint " ++ o.namePrefix ++ "getBiomeIndexOf(in vec4 coords) \x7b return -1; \x7d\n" ∧
      ∀ s, (IndexProgram.fallback reason).evaluate s = -1) ∧
    (∀ reason, (CoverageProgram.fallback reason).source o = "#version " ++
        toString o.version.toNat ++ "\nbool " ++ o.namePrefix ++
        "passesCoverage(in vec4 coords) \x7b return true; \x7d\n" ∧
      ∀ s, (CoverageProgram.fallback reason).evaluate s = true) ∧
    (∀ (layer : Layer) (coverage : Option Coverage), layer.biomes.length < 0x80000000 →
      (IndexProgram.compile layer coverage).value.IsWritable) ∧
    ∀ (b : Biome) (coverage : Option Coverage),
      (CoverageProgram.compile b coverage).value.IsWritable := by
  refine ⟨fun _ _ h => IndexProgram.source_means_lookup o h,
    fun _ _ h => CoverageProgram.source_means_test o h, ?_, ?_, ?_,
    IndexProgram.compile_is_writable, CoverageProgram.compile_is_writable⟩
  · intro binding
    refine ⟨?_, CoverageProgram.source_means_accept_all o binding⟩
    rw [CoverageProgram.source_accept_all]
    rfl
  · intro reason
    refine ⟨String.toList_inj.mp ?_, fun _ => rfl⟩
    simp [IndexProgram.source, ShaderOptions.defaultIndex, unlines_text, defaultLines, signature,
      ShaderOptions.versionLine, ShaderOptions.declared, ShaderOptions.ident, ShaderName.text]
  · intro reason
    refine ⟨String.toList_inj.mp ?_, fun _ => rfl⟩
    simp [CoverageProgram.source, ShaderOptions.defaultCoverage, unlines_text, defaultLines,
      signature, ShaderOptions.versionLine, ShaderOptions.declared, ShaderOptions.ident,
      ShaderName.text]

open ProgramSource in
/-- A negative zero, the smallest and the largest finite numbers, and the largest result. -/
theorem source_means_program_extremes :
    let arms : List Arm :=
      [⟨.exact ⟨0x80000000⟩, 0⟩, ⟨.range ⟨1⟩ ⟨0x7f7fffff⟩, 0x7fffffff⟩, ⟨.max ⟨0x80000001⟩, 1⟩]
    (IndexProgram.lookup ⟨"s", "m"⟩ arms).IsWritable ∧
      Means ((IndexProgram.lookup ⟨"s", "m"⟩ arms).source {}) (indexHeader {} ⟨"s", "m"⟩) .int32
        (arms.map fun arm => (arm.bound, (arm.result : Int))) (-1)
        (IndexProgram.lookup ⟨"s", "m"⟩ arms).evaluate := by
  intro arms
  have h : (IndexProgram.lookup ⟨"s", "m"⟩ arms).IsWritable := by decide
  exact ⟨h, (source_means_program {}).1 ⟨"s", "m"⟩ arms h⟩

end Groundcover
