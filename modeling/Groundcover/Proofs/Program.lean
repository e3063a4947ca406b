import Groundcover.Proofs.Legend
import Groundcover.Proofs.Raising

/-!
What classification programs answer. The arms of an index program belong to biomes in order, so the
first arm that admits a sample belongs to the least biome with a bound that admits it.
-/

namespace Groundcover

/-- The least number with a property, or -1 if no number has it. -/
def Least (p : Nat → Prop) (answer : Int) : Prop :=
  (∃ i : Nat, answer = i ∧ p i ∧ ∀ j < i, ¬p j) ∨ (answer = -1 ∧ ∀ i, ¬p i)

namespace Least

variable {p q : Nat → Prop} {answer : Int}

theorem congr (h : ∀ i, p i ↔ q i) (hp : Least p answer) : Least q answer := by
  rw [← funext fun i => propext (h i)]
  exact hp

/-- Which number the answer names, if it names one. -/
theorem eq_iff (h : Least p answer) (i : Nat) : answer = i ↔ p i ∧ ∀ j < i, ¬p j := by
  rcases h with ⟨k, rfl, hk, hbelow⟩ | ⟨rfl, hnone⟩
  · constructor
    · intro he
      have hi : k = i := by omega
      exact hi ▸ ⟨hk, hbelow⟩
    · rintro ⟨hi, hleast⟩
      have h1 : ¬k < i := fun hlt => hleast k hlt hk
      have h2 : ¬i < k := fun hlt => hbelow i hlt hi
      omega
  · constructor
    · intro he
      omega
    · rintro ⟨hi, -⟩
      exact absurd hi (hnone i)

end Least

namespace Legend

/-- Whether a sample passes one of the bounds that the legend has for some classes. -/
def Admits (l : Legend) (s : Single) (classes : List String) : Prop :=
  (l.bounds classes).value.any (fun b => b.admits s) = true

instance (l : Legend) (s : Single) (classes : List String) : Decidable (l.Admits s classes) :=
  inferInstanceAs (Decidable (_ = _))

theorem class_bounds_eq (l : Legend) (name : String) :
    l.classBounds name = (l.predicatesFor name).value.filterMap ValuePredicate.bound? := by
  cases h : l.class? name <;> simp [classBounds, predicatesFor, h]

theorem admits_iff {l : Legend} {s : Single} {classes : List String} :
    l.Admits s classes ↔ ∃ name ∈ classes, ∃ p ∈ (l.predicatesFor name).value,
      ∃ b, p.bound? = some b ∧ b.admits s = true := by
  simp only [Admits, bounds, List.any_eq_true, List.mem_flatMap, class_bounds_eq,
    List.mem_filterMap]
  constructor
  · rintro ⟨b, ⟨name, hn, p, hp, hb⟩, hs⟩
    exact ⟨name, hn, p, hp, b, hb, hs⟩
  · rintro ⟨name, hn, p, hp, b, hb, hs⟩
    exact ⟨b, ⟨name, hn, p, hp, hb⟩, hs⟩

theorem admits_nil (l : Legend) (s : Single) : ¬l.Admits s [] := by
  simp [Admits, bounds]

end Legend

namespace IndexProgram

theorem as_int32_small {n : Nat} (h : n < 0x80000000) : asInt32 n = n := by
  unfold asInt32
  exact Int.bmod_eq_of_le_mul_two (by omega) (by omega)

/-- Among the arms of one biome, all give its number. -/
theorem find_same (s : Single) (i : Nat) (bounds : List Bound) :
    ((bounds.map fun bound => Arm.mk bound i).find? fun arm => arm.bound.admits s).map Arm.result =
      if bounds.any (fun b => b.admits s) = true then some i else none := by
  induction bounds with
  | nil => rfl
  | cons b rest ih =>
    cases hb : b.admits s with
    | true => simp [hb]
    | false => simpa [hb] using ih

/-- The first arm to admit a sample is one of the first biome to admit it. -/
theorem find_arms (l : Legend) (s : Single) (first : Nat) (biomes : List Biome) :
    ((arms l first biomes).find? fun arm => arm.bound.admits s).map Arm.result =
      (biomes.findIdx? fun b => decide (l.Admits s b.classes)).map (first + ·) := by
  induction biomes generalizing first with
  | nil => rfl
  | cons b rest ih =>
    rw [arms_cons, List.find?_append, Option.map_or, find_same, ih, List.findIdx?_cons]
    by_cases hb : l.Admits s b.classes
    · simp [hb, show (l.bounds b.classes).value.any (fun b => b.admits s) = true from hb]
    · have hn : ¬(l.bounds b.classes).value.any (fun b => b.admits s) = true := hb
      simp only [hb, hn, decide_false, Bool.false_eq_true, ↓reduceIte, Option.none_or,
        Option.map_map]
      congr 1
      funext i
      simp only [Function.comp_apply]
      omega

/-- With fewer than 2^31 biomes, the arms of a layer lead to the least biome that
admits a sample. -/
theorem evaluate_arms (l : Legend) (binding : Binding) (s : Single) {biomes : List Biome}
    (h : biomes.length < 0x80000000) :
    Least (fun i => ∃ b, biomes[i]? = some b ∧ l.Admits s b.classes)
      ((lookup binding (arms l 0 biomes)).evaluate s) := by
  have hfind := find_arms l s 0 biomes
  simp only [Nat.zero_add, Option.map_id'] at hfind
  cases hidx : biomes.findIdx? fun b => decide (l.Admits s b.classes) with
  | none =>
    rw [hidx] at hfind
    have harm := Option.map_eq_none_iff.mp hfind
    refine .inr ⟨by simp only [evaluate, harm], ?_⟩
    rintro i ⟨b, hb, hs⟩
    have hout := List.findIdx?_eq_none_iff.mp hidx b (List.mem_of_getElem? hb)
    exact of_decide_eq_false hout hs
  | some i =>
    rw [hidx] at hfind
    obtain ⟨arm, harm, hresult⟩ := Option.map_eq_some_iff.mp hfind
    obtain ⟨hi, hadmits, hbelow⟩ := List.findIdx?_eq_some_iff_getElem.mp hidx
    refine .inl ⟨i, ?_, ⟨biomes[i], List.getElem?_eq_getElem hi, of_decide_eq_true hadmits⟩, ?_⟩
    · simp only [evaluate, harm, hresult]
      exact as_int32_small (by omega)
    · rintro j hj ⟨b, hb, hs⟩
      have hjb : biomes[j] = b := by
        rw [List.getElem?_eq_getElem (by omega)] at hb
        exact Option.some.inj hb
      exact hbelow j hj (by simpa [hjb] using hs)

end IndexProgram

namespace CoverageProgram

theorem evaluate_test (l : Legend) (binding : Binding) (s : Single) (classes : List String) :
    (test binding (l.bounds classes).value).evaluate s = true ↔ l.Admits s classes := by
  rfl

end CoverageProgram

end Groundcover
