import Groundcover.Proofs.Agreement
import Groundcover.Proofs.Shader.ProgramSource

/-!
Classes without effect: those that the legend does not know, and those whose predicates have no
bound. Programs do not change when biomes stop to list them, as long as a biome lists anything at
all: one without classes covers everything, one whose classes have no effect covers nothing.
-/

namespace Groundcover

/-- A class in the list of a biome: the number of the biome, the place in its list and the name. -/
structure Occurrence where
  biome : Nat
  place : Nat
  name : String
  deriving DecidableEq

namespace Biome

/-- The classes of a biome that has a number, in order. -/
def occurrences (b : Biome) (i : Nat) : List Occurrence :=
  b.classes.zipIdx.map fun (name, place) => ⟨i, place, name⟩

/-- A biome that has a number, without some classes. -/
def without (dropped : Occurrence → Bool) (b : Biome) (i : Nat) : Biome :=
  { b with classes := ((b.occurrences i).filter (!dropped ·)).map Occurrence.name }

theorem names_of_occurrences (b : Biome) (i : Nat) :
    (b.occurrences i).map Occurrence.name = b.classes := by
  rw [occurrences, List.map_map]
  exact List.zipIdx_map_fst 0 b.classes

theorem without_none (b : Biome) (i : Nat) : b.without (fun _ => false) i = b := by
  simp [without, names_of_occurrences]

end Biome

namespace Layer

/-- The classes of all biomes, in order. -/
def occurrences (l : Layer) : List Occurrence :=
  l.biomes.zipIdx.flatMap fun (b, i) => b.occurrences i

/-- A layer whose biomes do not list some classes. The biomes keep their numbers. -/
def without (dropped : Occurrence → Bool) (l : Layer) : Layer :=
  { l with biomes := l.biomes.zipIdx.map fun (b, i) => b.without dropped i }

theorem without_none (l : Layer) : l.without (fun _ => false) = l := by
  simp [without, Biome.without_none]

theorem numbered_without (dropped : Occurrence → Bool) (l : Layer) :
    (l.without dropped).biomes.zipIdx =
      l.biomes.zipIdx.map fun (b, i) => (b.without dropped i, i) := by
  apply List.ext_getElem?
  intro i
  cases h : l.biomes[i]? <;> simp [without, h]

theorem mem_occurrences {l : Layer} {b : Biome} {i : Nat} {o : Occurrence}
    (hb : (b, i) ∈ l.biomes.zipIdx) (ho : o ∈ b.occurrences i) : o ∈ l.occurrences :=
  List.mem_flatMap.mpr ⟨(b, i), hb, ho⟩

end Layer

namespace Legend

variable {l : Legend}

/-- A class without effect: nothing is known of it that could admit a sample. -/
def IsIdle (l : Legend) (name : String) : Prop :=
  ∀ c, l.class? name = some c → ∀ p ∈ c.predicates, p.bound? = none

theorem idle_iff_no_bounds {name : String} : l.IsIdle name ↔ l.classBounds name = [] := by
  unfold IsIdle classBounds
  cases l.class? name with
  | none => simp
  | some c => simp [List.filterMap_eq_nil_iff]

/-- Classes without effect leave a biome without bounds. -/
theorem bounds_of_idle {classes : List String} (h : ∀ name ∈ classes, l.IsIdle name) :
    (l.bounds classes).value = [] :=
  List.flatMap_eq_nil_iff.mpr fun name hname => idle_iff_no_bounds.mp (h name hname)

section Without

variable {dropped : Occurrence → Bool}

/-- Occurrences without effect can be dropped from a list of them. -/
theorem bounds_of_kept {os : List Occurrence} (h : ∀ o ∈ os, dropped o = true → l.IsIdle o.name) :
    (os.filter (!dropped ·)).flatMap (fun o => l.classBounds o.name) =
      os.flatMap fun o => l.classBounds o.name := by
  induction os with
  | nil => rfl
  | cons o os ih =>
    obtain ⟨ho, hos⟩ := List.forall_mem_cons.mp h
    rw [List.filter_cons, List.flatMap_cons, ← ih hos]
    cases hdropped : dropped o with
    | true => simp [idle_iff_no_bounds.mp (ho hdropped)]
    | false => simp

variable {b : Biome} {i : Nat}

/-- A biome that does not list classes without effect has the same bounds. -/
theorem bounds_without (h : ∀ o ∈ b.occurrences i, dropped o = true → l.IsIdle o.name) :
    (l.bounds (b.without dropped i).classes).value = (l.bounds b.classes).value := calc
  (l.bounds (b.without dropped i).classes).value
  _ = ((b.occurrences i).filter (!dropped ·)).flatMap fun o => l.classBounds o.name :=
    List.flatMap_map ..
  _ = (b.occurrences i).flatMap fun o => l.classBounds o.name := bounds_of_kept h
  _ = ((b.occurrences i).map Occurrence.name).flatMap l.classBounds := (List.flatMap_map ..).symm
  _ = (l.bounds b.classes).value := by rw [b.names_of_occurrences i, bounds]

variable (l b i)

/-- What is raised for a biome is raised for one class that it lists after the other. -/
theorem faults_without (dropped : Occurrence → Bool) :
    (l.bounds (b.without dropped i).classes).diagnostics =
      ((b.occurrences i).filter (!dropped ·)).flatMap fun o => l.classFaults o.name :=
  List.flatMap_map ..

theorem faults_listed : (l.bounds b.classes).diagnostics =
    (b.occurrences i).flatMap fun o => l.classFaults o.name := by
  have hall := l.faults_without b i fun _ => false
  rwa [b.without_none i, Bool.not_false, List.filter_true] at hall

end Without

end Legend

section Programs

variable {legend : Legend} {layer : Layer} {dropped : Occurrence → Bool}

theorem IndexProgram.arms_without
    (h : ∀ o ∈ layer.occurrences, dropped o = true → legend.IsIdle o.name) :
    arms legend 0 (layer.without dropped).biomes = arms legend 0 layer.biomes := by
  rw [arms, arms, layer.numbered_without dropped, List.flatMap_map]
  refine List.flatMap_congr fun p hp => ?_
  exact congrArg _ (Legend.bounds_without fun o ho => h o (Layer.mem_occurrences hp ho))

variable (legend layer) (binding : Binding)

/-- The diagnostics of an index program are raised for one class after the other. -/
theorem IndexProgram.diagnostics_without (dropped : Occurrence → Bool) :
    (compile (layer.without dropped) (some ⟨some legend, some binding⟩)).diagnostics =
      (layer.occurrences.filter (!dropped ·)).flatMap fun o => legend.classFaults o.name := by
  have hresolved :
      Coverage.resolve (some ⟨some legend, some binding⟩) = .ok ⟨legend, binding⟩ := rfl
  rw [compile_resolved hresolved, Layer.without, List.flatMap_map, Layer.occurrences,
    List.filter_flatMap, List.flatMap_assoc]
  exact List.flatMap_congr fun p _ => legend.faults_without p.1 p.2 dropped

theorem IndexProgram.diagnostics_listed :
    (compile layer (some ⟨some legend, some binding⟩)).diagnostics =
      layer.occurrences.flatMap fun o => legend.classFaults o.name := by
  have hall := diagnostics_without legend layer binding fun _ => false
  rwa [layer.without_none, Bool.not_false, List.filter_true] at hall

end Programs

namespace CoverageProgram

open ProgramSource

theorem compile_without {coverage : Option Coverage} {legend : Legend} {binding : Binding}
    (hresolved : Coverage.resolve coverage = .ok ⟨legend, binding⟩) {b : Biome} {i : Nat}
    {dropped : Occurrence → Bool}
    (h : ∀ o ∈ b.occurrences i, dropped o = true → legend.IsIdle o.name)
    (hlisted : (b.without dropped i).classes ≠ []) :
    (compile (b.without dropped i) coverage).value = (compile b coverage).value := by
  have hb : b.classes ≠ [] := by
    intro hnone
    apply hlisted
    simp [Biome.without, Biome.occurrences, hnone]
  rw [compile_classes hresolved _ hlisted, compile_classes hresolved b hb,
    Legend.bounds_without h]

/-- The source of a program that tests no bounds: it answers as soon as it has a sample. -/
theorem source_test_nil (o : ShaderOptions) (binding : Binding) :
    (test binding []).source o = unlines
      [o.versionLine, "uniform sampler2D " ++ binding.sampler ++ ";",
        "uniform mat4 " ++ binding.matrix ++ ";",
        "bool " ++ o.declared .coverage ++ "(in vec4 coords) \x7b",
        "    float value = textureLod(" ++ binding.sampler ++ ", (" ++ binding.matrix
          ++ " * coords).st, 0.0).r;",
        "    return false;", "\x7d"] := by
  rfl

/-- Where a program that tests bounds takes a sample, the one that accepts everything returns. -/
theorem source_test_ne_accept_all (o : ShaderOptions) (binding : Binding) (bounds : List Bound) :
    (test binding bounds).source o ≠ (acceptAll binding).source o := by
  have hheader : testHeader o binding =
      coverageHeader o binding ++ unlines [sampleLine binding] := by
    rw [testHeader, coverageHeader, ← unlines_append, List.append_assoc, List.singleton_append]
  have hsample : ∃ more, (unlines [sampleLine binding]).toList = "    float ".toList ++ more := by
    rw [unlines_text, List.flatMap_singleton]
    unfold sampleLine
    simp only [String.append_assoc, String.toList_append, List.append_assoc]
    exact ⟨_, rfl⟩
  obtain ⟨more, hmore⟩ := hsample
  rw [source_test, source_accept_all, hheader, String.append_assoc, ne_eq, String.append_right_inj]
  intro hsame
  -- Both lines are indented; the letter behind tells them apart.
  have hword := congrArg (fun text => text.toList.take 5) hsame
  simp only [String.toList_append, hmore, return_line_text, List.append_assoc] at hword
  rw [List.take_append_of_le_length (by decide), List.take_append_of_le_length (by decide)] at hword
  exact absurd hword (by decide)

end CoverageProgram

/-- Classes without effect affect only themselves. When biomes stop to list some of them, the index
program of the layer is the same, and so is the coverage program of each biome that still lists a
class; what is raised is what was raised before, less what was raised for them. A biome that lists
no other classes is still unlike one without classes: its program tests no bounds and rejects every
sample, which its source does by `return false;` right behind the sample. -/
theorem idle_classes_affect_only_themselves (legend : Legend) (binding : Binding) (layer : Layer)
    (dropped : Occurrence → Bool)
    (h : ∀ o ∈ layer.occurrences, dropped o = true → legend.IsIdle o.name) :
    let coverage : Option Coverage := some ⟨some legend, some binding⟩
    let reduced := layer.without dropped
    let raised (os : List Occurrence) := os.flatMap fun o => legend.classFaults o.name
    (IndexProgram.compile reduced coverage).value = (IndexProgram.compile layer coverage).value ∧
    (IndexProgram.compile layer coverage).diagnostics = raised layer.occurrences ∧
    (IndexProgram.compile reduced coverage).diagnostics =
      raised (layer.occurrences.filter (!dropped ·)) ∧
    (∀ i b, layer.biomes[i]? = some b → ∃ b', reduced.biomes[i]? = some b' ∧
      b'.classes = ((b.occurrences i).filter (!dropped ·)).map Occurrence.name ∧
      (b'.classes ≠ [] →
        (CoverageProgram.compile b' coverage).value = (CoverageProgram.compile b coverage).value) ∧
      (CoverageProgram.compile b coverage).diagnostics = raised (b.occurrences i) ∧
      (CoverageProgram.compile b' coverage).diagnostics =
        raised ((b.occurrences i).filter (!dropped ·))) ∧
    ∀ b : Biome, b.classes ≠ [] → (∀ name ∈ b.classes, legend.IsIdle name) →
      let program := (CoverageProgram.compile b coverage).value
      program = .test binding [] ∧ (∀ sample, program.evaluate sample = false) ∧
      ∀ o : ShaderOptions,
        program.source o = unlines
          [o.versionLine, "uniform sampler2D " ++ binding.sampler ++ ";",
            "uniform mat4 " ++ binding.matrix ++ ";",
            "bool " ++ o.declared .coverage ++ "(in vec4 coords) \x7b",
            "    float value = textureLod(" ++ binding.sampler ++ ", (" ++ binding.matrix
              ++ " * coords).st, 0.0).r;",
            "    return false;", "\x7d"] ∧
        ∀ bare : Biome, bare.classes = [] →
          program.source o ≠ (CoverageProgram.compile bare coverage).value.source o := by
  intro coverage reduced raised
  have hresolved : Coverage.resolve coverage = .ok ⟨legend, binding⟩ := rfl
  refine ⟨?_, ?_, ?_, ?_, ?_⟩
  · rw [IndexProgram.compile_resolved hresolved, IndexProgram.compile_resolved hresolved]
    exact congrArg (IndexProgram.lookup binding) (IndexProgram.arms_without h)
  · exact IndexProgram.diagnostics_listed legend layer binding
  · exact IndexProgram.diagnostics_without legend layer binding dropped
  · intro i b hb
    have hnumbered : (b, i) ∈ layer.biomes.zipIdx := List.mk_mem_zipIdx_iff_getElem?.mpr hb
    refine ⟨b.without dropped i, by simp [reduced, Layer.without, hb], rfl, ?_, ?_, ?_⟩
    · exact CoverageProgram.compile_without hresolved fun o ho =>
        h o (Layer.mem_occurrences hnumbered ho)
    · rw [CoverageProgram.diagnostics_compile hresolved, legend.faults_listed b i]
    · rw [CoverageProgram.diagnostics_compile hresolved, legend.faults_without b i]
  · intro b hlisted hidle program
    have hprogram : program = .test binding [] := by
      rw [← legend.bounds_of_idle hidle]
      exact congrArg Diagnosed.value (CoverageProgram.compile_classes hresolved b hlisted)
    rw [hprogram]
    refine ⟨rfl, fun _ => rfl, fun o => ⟨CoverageProgram.source_test_nil o binding, ?_⟩⟩
    intro bare hbare
    rw [CoverageProgram.compile_classless hresolved bare hbare]
    exact CoverageProgram.source_test_ne_accept_all o binding []

/-- An unknown class and one without bounds are dropped around a class that has one of each kind;
the next biome lists only classes without effect and loses one of them. -/
theorem idle_classes_affect_only_themselves_around :
    let legend : Legend := .ofRows
      [⟨"forest", { exact := some .one }⟩, ⟨"forest", { min := some (.quietNaN false) }⟩,
        ⟨"swamp", {}⟩]
    let coverage : Option Coverage := some ⟨some legend, some ⟨"s", "m"⟩⟩
    let next : Biome := { classes := ["swamp", "rock"] }
    let layer : Layer :=
      { name := "", biomes := [{ classes := ["rock", "forest", "swamp"] }, next, {}] }
    let dropped (o : Occurrence) : Bool :=
      o ∈ [⟨0, 0, "rock"⟩, ⟨0, 2, "swamp"⟩, ⟨1, 0, "swamp"⟩]
    let reduced := layer.without dropped
    (∀ o ∈ layer.occurrences, dropped o = true → legend.IsIdle o.name) ∧
      reduced.biomes.map Biome.classes = [["forest"], ["rock"], []] ∧
      (IndexProgram.compile reduced coverage).value = (IndexProgram.compile layer coverage).value ∧
      (IndexProgram.compile layer coverage).diagnostics = [.unknownClass "rock",
        .unboundedPredicate "forest", .unboundedPredicate "swamp", .unboundedPredicate "swamp",
        .unknownClass "rock"] ∧
      (IndexProgram.compile reduced coverage).diagnostics =
        [.unboundedPredicate "forest", .unknownClass "rock"] ∧
      (next.classes ≠ [] ∧ ∀ name ∈ next.classes, legend.IsIdle name) ∧
      ∀ sample, (CoverageProgram.compile next coverage).value.evaluate sample = false := by
  intro legend coverage next layer dropped reduced
  have hdropped : ∀ o ∈ layer.occurrences, dropped o = true → legend.IsIdle o.name := by
    simp only [Legend.idle_iff_no_bounds]
    decide
  have hnext : ∀ name ∈ next.classes, legend.IsIdle name := by
    simp only [Legend.idle_iff_no_bounds]
    decide
  obtain ⟨hindex, hall, hkept, -, hrejects⟩ :=
    idle_classes_affect_only_themselves legend ⟨"s", "m"⟩ layer dropped hdropped
  refine ⟨hdropped, by decide, hindex, hall.trans (by decide), hkept.trans (by decide),
    ⟨by simp [next], hnext⟩, ?_⟩
  exact (hrejects next (by simp [next]) hnext).2.1

end Groundcover
