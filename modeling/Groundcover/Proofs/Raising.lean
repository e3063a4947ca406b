import Groundcover.Program

/-!
What compiling raises. Diagnostics are pushed one by one as faults are met, and each push is logged;
a program comes to the bounds and the faults of its classes in their order, each fault logged once,
whatever was raised before.
-/

namespace Groundcover

/-- From any list of diagnostics on, a computation comes to a value, pushes its own diagnostics
behind those of the list and logs each of them once. -/
def Raises {α : Type} (x : Raising α) (made : Diagnosed α) : Prop :=
  ∀ raised : Diagnostics, x.run raised =
    ⟨(made.value, raised ++ made.diagnostics), made.diagnostics.map Diagnostic.record⟩

namespace Raises

variable {α β : Type} {x : Raising α} {f : α → Raising β} {made : Diagnosed α}
  {next whole : Diagnosed β}

theorem done (a : α) : Raises (pure a) ⟨a, []⟩ := by
  intro raised
  rw [List.append_nil]
  rfl

theorem andThen (h : Raises x made) (h' : Raises (f made.value) next)
    (hvalue : whole.value = next.value)
    (hdiagnostics : whole.diagnostics = made.diagnostics ++ next.diagnostics) :
    Raises (x >>= f) whole := by
  intro raised
  rw [StateT.run_bind, h raised, hvalue, hdiagnostics, List.map_append, ← List.append_assoc]
  have hnext := h' (raised ++ made.diagnostics)
  simp only [bind, hnext]

theorem map (h : Raises x made) (g : α → β) :
    Raises (x >>= fun a => pure (g a)) ⟨g made.value, made.diagnostics⟩ :=
  h.andThen (.done (g made.value)) rfl (List.append_nil _).symm

/-- A diagnostic is logged in front of those that are raised after it. -/
theorem behind (h : Raises x made) (d : Diagnostic) :
    Raises (d.raise >>= fun _ => x) ⟨made.value, d :: made.diagnostics⟩ := by
  have hraise : Raises d.raise ⟨(), [d]⟩ := fun _ => rfl
  exact hraise.andThen h rfl rfl

/-- On its own, a computation logs what it raised once and in order. -/
theorem diagnosed (h : Raises x made) : x.diagnosed = made.logged := by
  rw [Raising.diagnosed, h []]
  simp [bind, pure, Diagnosed.logged]

end Raises

namespace Legend

/-- The bounds of a class, in the order of its predicates. -/
def classBounds (l : Legend) (name : String) : List Bound :=
  match l.class? name with
  | none => []
  | some c => c.predicates.filterMap ValuePredicate.bound?

/-- What keeps a class from contributing: the legend lacks it, or a predicate has no bound. -/
def classFaults (l : Legend) (name : String) : Diagnostics :=
  match l.class? name with
  | none => [.unknownClass name]
  | some c =>
    c.predicates.filterMap fun p =>
      if p.bound?.isNone then some (.unboundedPredicate name) else none

/-- The bounds of several classes, with the faults found on the way. -/
def bounds (l : Legend) (classes : List String) : Diagnosed (List Bound) :=
  ⟨classes.flatMap l.classBounds, classes.flatMap l.classFaults⟩

theorem predicate_bounds_raise (name : String) (predicates : List ValuePredicate) :
    Raises (predicateBounds name predicates) ⟨predicates.filterMap ValuePredicate.bound?,
      predicates.filterMap fun p =>
        if p.bound?.isNone then some (.unboundedPredicate name) else none⟩ := by
  induction predicates with
  | nil => exact .done []
  | cons p rest ih =>
    cases h : p.bound? with
    | none => simpa [predicateBounds, h] using ih.behind (.unboundedPredicate name)
    | some bound => simpa [predicateBounds, h] using ih.map (bound :: ·)

theorem collect_class_raises (l : Legend) (name : String) :
    Raises (l.collectClass name) ⟨l.classBounds name, l.classFaults name⟩ := by
  unfold collectClass classBounds classFaults
  cases l.class? name with
  | none => exact (Raises.done []).behind (.unknownClass name)
  | some c => exact predicate_bounds_raise name c.predicates

theorem collect_raises (l : Legend) (classes : List String) :
    Raises (l.collect classes) (l.bounds classes) := by
  induction classes with
  | nil => exact .done []
  | cons name rest ih =>
    exact (l.collect_class_raises name).andThen (ih.map (l.classBounds name ++ ·)) rfl rfl

end Legend

namespace IndexProgram

/-- The arms of biomes, the first of which has the number `first`. -/
def arms (l : Legend) (first : Nat) (biomes : List Biome) : List Arm :=
  (biomes.zipIdx first).flatMap fun (b, i) => (l.bounds b.classes).value.map fun bound => ⟨bound, i⟩

theorem arms_cons (l : Legend) (first : Nat) (b : Biome) (rest : List Biome) :
    arms l first (b :: rest) =
      (l.bounds b.classes).value.map (fun bound => ⟨bound, first⟩) ++ arms l (first + 1) rest := by
  simp [arms, List.zipIdx_cons]

theorem collect_arms_raises (l : Legend) (first : Nat) (biomes : List Biome) :
    Raises (collectArms l first biomes)
      ⟨arms l first biomes, biomes.flatMap fun b => (l.bounds b.classes).diagnostics⟩ := by
  induction biomes generalizing first with
  | nil => exact .done []
  | cons b rest ih =>
    let own : List Arm := (l.bounds b.classes).value.map fun bound => ⟨bound, first⟩
    exact (l.collect_raises b.classes).andThen ((ih (first + 1)).map (own ++ ·))
      (arms_cons l first b rest) rfl

/-- The program of a layer, by the bounds and the faults of its classes. -/
theorem build_raises (layer : Layer) (coverage : Option Coverage) :
    Raises (build layer coverage) (match Coverage.resolve coverage with
      | .error reason => ⟨.fallback reason, [.fallback reason]⟩
      | .ok source =>
        ⟨.lookup source.binding (arms source.legend 0 layer.biomes),
          layer.biomes.flatMap fun b => (source.legend.bounds b.classes).diagnostics⟩) := by
  unfold build
  cases Coverage.resolve coverage with
  | error reason => exact (Raises.done _).behind (.fallback reason)
  | ok source =>
    exact (collect_arms_raises source.legend 0 layer.biomes).map (lookup source.binding)

theorem compile_eq (layer : Layer) (coverage : Option Coverage) :
    compile layer coverage = match Coverage.resolve coverage with
      | .error reason => ⟨.fallback reason, [.fallback reason]⟩
      | .ok source =>
        ⟨.lookup source.binding (arms source.legend 0 layer.biomes),
          layer.biomes.flatMap fun b => (source.legend.bounds b.classes).diagnostics⟩ :=
  congrArg Logged.value (build_raises layer coverage).diagnosed

theorem compile_resolved {coverage : Option Coverage} {source : ResolvedCoverage}
    (h : Coverage.resolve coverage = .ok source) (layer : Layer) : compile layer coverage =
      ⟨.lookup source.binding (arms source.legend 0 layer.biomes),
        layer.biomes.flatMap fun b => (source.legend.bounds b.classes).diagnostics⟩ := by
  rw [compile_eq, h]

end IndexProgram

namespace CoverageProgram

/-- The program of a biome, by the bounds and the faults of its classes. -/
theorem build_raises (biome : Biome) (coverage : Option Coverage) :
    Raises (build biome coverage) (match Coverage.resolve coverage with
      | .error reason => ⟨.fallback reason, [.fallback reason]⟩
      | .ok source =>
        if biome.classes.isEmpty then ⟨.acceptAll source.binding, []⟩
        else
          let bounds := source.legend.bounds biome.classes
          ⟨.test source.binding bounds.value, bounds.diagnostics⟩) := by
  unfold build
  cases Coverage.resolve coverage with
  | error reason => exact (Raises.done _).behind (.fallback reason)
  | ok source =>
    dsimp only
    split
    · exact .done _
    · exact (source.legend.collect_raises biome.classes).map (test source.binding)

theorem compile_eq (biome : Biome) (coverage : Option Coverage) :
    compile biome coverage = match Coverage.resolve coverage with
      | .error reason => ⟨.fallback reason, [.fallback reason]⟩
      | .ok source =>
        if biome.classes.isEmpty then ⟨.acceptAll source.binding, []⟩
        else
          let bounds := source.legend.bounds biome.classes
          ⟨.test source.binding bounds.value, bounds.diagnostics⟩ :=
  congrArg Logged.value (build_raises biome coverage).diagnosed

end CoverageProgram

end Groundcover
