import Groundcover.Proofs.Agreement
import Groundcover.Proofs.Tables
import Mathlib.Data.List.FinRange

/-!
Layers whose biomes stand in another order. A biome takes along its row and its billboards, which
are numbered anew from the place where they now begin. Which biome a sample belongs to changes only
where several of them accept it.
-/

namespace Groundcover

/-- The layer in which the biome at `i` has moved to `p i`. -/
def Layer.reordered (l : Layer) (p : Equiv.Perm (Fin l.biomes.length)) : Layer :=
  { l with biomes := List.ofFn fun k => l.biomes.get (p.symm k) }

/-- The billboards that the row of a biome designates. -/
def BiomeRecord.slice (r : BiomeRecord) (t : Tables) : List BillboardRecord :=
  (t.billboards.drop r.first).take r.count

def BillboardRecord.size (r : BillboardRecord) : Single × Single := (r.width, r.height)

namespace Tables

theorem billboard_records_size (first : Nat) (billboards : List Billboard) :
    (billboardRecords first billboards).map BillboardRecord.size =
      billboards.map fun b => (b.width, b.height) := by
  conv => rhs; rw [← List.zipIdx_map_fst first billboards]
  rw [billboardRecords, List.map_map, List.map_map]
  rfl

/-- The row of a biome designates its own billboards, numbered from where they begin. -/
theorem of_layer_slice (l : Layer) {i : Nat} {biome : Biome} (hi : l.biomes[i]? = some biome) :
    ∃ first, let row : BiomeRecord :=
        ⟨first, biome.billboards.length, l.params.density, l.params.fill⟩
      (ofLayer l).biomes[i]? = some row ∧
        row.slice (ofLayer l) = billboardRecords first biome.billboards := by
  obtain ⟨front, back, hsplit, hrow⟩ := of_layer_get l hi
  refine ⟨front.length, hrow, ?_⟩
  rw [BiomeRecord.slice, of_layer_eq, hsplit, billboard_records_append, billboard_records_append,
    Nat.zero_add, List.append_assoc, List.drop_left' (billboard_records_length 0 front),
    List.take_left' (billboard_records_length _ _)]

end Tables

namespace Layer

variable (l : Layer) (p : Equiv.Perm (Fin l.biomes.length))

theorem reordered_get_iff {k : Nat} {b : Biome} :
    (l.reordered p).biomes[k]? = some b ↔ ∃ i, (p i : Nat) = k ∧ l.biomes.get i = b := by
  rw [reordered, List.getElem?_ofFn]
  constructor
  · intro h
    split at h
    · rename_i hk
      exact ⟨p.symm ⟨k, hk⟩, by rw [Equiv.apply_symm_apply], Option.some.inj h⟩
    · cases h
  · rintro ⟨i, rfl, rfl⟩
    rw [dif_pos (p i).isLt, Fin.eta, Equiv.symm_apply_apply]

theorem reordered_get (i : Fin l.biomes.length) :
    (l.reordered p).biomes[(p i : Nat)]? = some (l.biomes.get i) :=
  (l.reordered_get_iff p).mpr ⟨i, rfl, rfl⟩

theorem reordered_perm : (l.reordered p).biomes.Perm l.biomes := by
  have hperm := Equiv.Perm.ofFn_comp_perm p.symm l.biomes.get
  rwa [List.ofFn_get] at hperm

theorem reordered_length : (l.reordered p).biomes.length = l.biomes.length :=
  List.length_ofFn

theorem reordered_total : (l.reordered p).totalBillboards = l.totalBillboards := by
  rw [total_billboards_eq, total_billboards_eq]
  exact ((l.reordered_perm p).flatMap_right Biome.billboards).length_eq

/-- The row of a biome that moved differs in where its billboards begin, and they are the same. -/
theorem reordered_row (i : Fin l.biomes.length) :
    let t := Tables.ofLayer l
    let t' := Tables.ofLayer (l.reordered p)
    ∃ row row', t.biomes[(i : Nat)]? = some row ∧ t'.biomes[(p i : Nat)]? = some row' ∧
      row' = { row with first := row'.first } ∧
      (row'.slice t').map BillboardRecord.size = (row.slice t).map BillboardRecord.size ∧
      (row.slice t).map BillboardRecord.index = List.range' row.first row.count ∧
      (row'.slice t').map BillboardRecord.index = List.range' row'.first row'.count := by
  intro t t'
  have hold : l.biomes[(i : Nat)]? = some (l.biomes.get i) := List.getElem?_eq_getElem i.isLt
  obtain ⟨first, hrow, hslice⟩ := Tables.of_layer_slice l hold
  obtain ⟨first', hrow', hslice'⟩ := Tables.of_layer_slice _ (l.reordered_get p i)
  refine ⟨_, _, hrow, hrow', rfl, ?_, ?_, ?_⟩
  · rw [hslice, hslice', Tables.billboard_records_size, Tables.billboard_records_size]
  · rw [hslice, Tables.billboard_records_index]
  · rw [hslice', Tables.billboard_records_index]

end Layer

/-- The answer names the least place at which something with the property stands. -/
theorem Least.at_places {n : Nat} {place : Fin n → Nat} {q : Fin n → Prop} {answer : Int}
    (h : Least (fun k => ∃ i, place i = k ∧ q i) answer) :
    ((∀ i, ¬q i) → answer = -1) ∧ ∀ i, q i → (∀ j, q j → place i ≤ place j) → answer = place i := by
  constructor
  · intro hnone
    rcases h with ⟨k, -, ⟨i, -, hi⟩, -⟩ | ⟨hanswer, -⟩
    · exact absurd hi (hnone i)
    · exact hanswer
  · intro i hi hleast
    rw [h.eq_iff]
    refine ⟨⟨i, rfl, hi⟩, ?_⟩
    rintro k hk ⟨j, rfl, hj⟩
    exact absurd (hleast j hj) (Nat.not_le.mpr hk)

/-- A biome that has classes and accepts the sample. -/
def Layer.Accepts (l : Layer) (coverage : Option Coverage) (s : Single) (i : Fin l.biomes.length) :
    Prop :=
  (l.biomes.get i).classes ≠ [] ∧
    (CoverageProgram.compile (l.biomes.get i) coverage).value.evaluate s = true

section Classified

variable {coverage : Option Coverage} {legend : Legend} {binding : Binding}
  (hresolve : Coverage.resolve coverage = .ok ⟨legend, binding⟩)
include hresolve

/-- The index of a layer that has the biomes of another one in some places. -/
theorem IndexProgram.least_place {l l' : Layer} {place : Fin l.biomes.length → Nat}
    (hplace : ∀ k b, l'.biomes[k]? = some b ↔ ∃ i, place i = k ∧ l.biomes.get i = b)
    (hshort : l'.biomes.length < 0x80000000) (s : Single) :
    Least (fun k => ∃ i, place i = k ∧ l.Accepts coverage s i)
      ((compile l' coverage).value.evaluate s) := by
  simp only [compile_eq, hresolve]
  apply (evaluate_arms legend binding s hshort).congr
  intro k
  constructor
  · rintro ⟨b, hb, hadmits⟩
    obtain ⟨i, hi, rfl⟩ := (hplace k b).mp hb
    exact ⟨i, hi, (CoverageProgram.admits_iff_accepts hresolve _ s).mp hadmits⟩
  · rintro ⟨i, hi, haccepts⟩
    exact ⟨l.biomes.get i, (hplace k _).mpr ⟨i, hi, rfl⟩,
      (CoverageProgram.admits_iff_accepts hresolve _ s).mpr haccepts⟩

end Classified

/-- To reorder the biomes of a layer only numbers them anew. -/
theorem reordering_only_renumbers (l : Layer) (hshort : l.biomes.length < 0x80000000)
    (p : Equiv.Perm (Fin l.biomes.length)) (legend : Legend) (binding : Binding) :
    let l' := l.reordered p
    let t := Tables.ofLayer l
    let t' := Tables.ofLayer l'
    let coverage : Option Coverage := some ⟨some legend, some binding⟩
    let index (s : Single) := (IndexProgram.compile l coverage).value.evaluate s
    let index' (s : Single) := (IndexProgram.compile l' coverage).value.evaluate s
    (t'.billboards.length = t.billboards.length ∧ ∀ i : Fin l.biomes.length, ∃ row row',
      t.biomes[(i : Nat)]? = some row ∧ t'.biomes[(p i : Nat)]? = some row' ∧
      row' = { row with first := row'.first } ∧
      (row'.slice t').map BillboardRecord.size = (row.slice t).map BillboardRecord.size ∧
      (row.slice t).map BillboardRecord.index = List.range' row.first row.count ∧
      (row'.slice t').map BillboardRecord.index = List.range' row'.first row'.count) ∧
    (∀ i : Fin l.biomes.length,
      (l'.biomes.map fun b => CoverageProgram.compile b coverage)[(p i : Nat)]? =
        (l.biomes.map fun b => CoverageProgram.compile b coverage)[(i : Nat)]?) ∧
    ∀ s, ((∀ i, ¬l.Accepts coverage s i) → index s = -1 ∧ index' s = -1) ∧
      (∀ i, l.Accepts coverage s i → (∀ j, l.Accepts coverage s j → j = i) →
        index s = (i : Nat) ∧ index' s = (p i : Nat)) ∧
      ∀ i, l.Accepts coverage s i → (∀ j, l.Accepts coverage s j → p i ≤ p j) →
        index' s = (p i : Nat) := by
  intro l' t t' coverage index index'
  refine ⟨⟨?_, l.reordered_row p⟩, fun i => ?_, fun s => ?_⟩
  · have htotal := l.reordered_total p
    rw [Layer.total_billboards_eq, Layer.total_billboards_eq] at htotal
    simpa [t, t', Tables.of_layer_eq, Tables.billboard_records_length] using htotal
  · rw [List.getElem?_map, List.getElem?_map, l.reordered_get p i,
      List.getElem?_eq_getElem i.isLt]
    rfl
  -- Both indices are the least place of a biome that accepts the sample, the old and the new one.
  · have hplace (k : Nat) (b : Biome) : l.biomes[k]? = some b ↔
        ∃ i : Fin l.biomes.length, (i : Nat) = k ∧ l.biomes.get i = b := by
      rw [List.getElem?_eq_some_iff]
      exact ⟨fun ⟨hk, hb⟩ => ⟨⟨k, hk⟩, rfl, hb⟩, fun ⟨i, hi, hb⟩ => hi ▸ ⟨i.isLt, hb⟩⟩
    have hresolve : Coverage.resolve coverage = .ok ⟨legend, binding⟩ := rfl
    obtain ⟨hnone, hsome⟩ := (IndexProgram.least_place hresolve hplace hshort s).at_places
    have hshort' : l'.biomes.length < 0x80000000 := (l.reordered_length p).symm ▸ hshort
    have hplace' (k : Nat) (b : Biome) : l'.biomes[k]? = some b ↔
        ∃ i, (p i : Nat) = k ∧ l.biomes.get i = b := l.reordered_get_iff p
    obtain ⟨hnone', hsome'⟩ := (IndexProgram.least_place hresolve hplace' hshort' s).at_places
    refine ⟨fun h => ⟨hnone h, hnone' h⟩, fun i hi honly => ⟨?_, ?_⟩, hsome'⟩
    · exact hsome i hi fun j hj => honly j hj ▸ Nat.le_refl _
    · exact hsome' i hi fun j hj => honly j hj ▸ Nat.le_refl _

/-- Two biomes of one class change places across one without classes. The sample belongs to the one
that stands first, before and after. -/
theorem reordering_only_renumbers_overlap :
    let bush (size : Single) : Billboard := ⟨"b", default, size, size⟩
    let l : Layer :=
      { name := "l"
        biomes := [⟨["wood"], [bush .one, bush .one]⟩, ⟨[], [bush .one]⟩,
          ⟨["sand", "wood"], [bush (.ofNat 2)]⟩] }
    let p : Equiv.Perm (Fin l.biomes.length) := Equiv.swap ⟨0, by decide⟩ ⟨2, by decide⟩
    let legend : Legend := .ofRows [⟨"wood", { min := some .zero }⟩]
    let coverage : Option Coverage := some ⟨some legend, some ⟨"s", "m"⟩⟩
    l.biomes.length < 0x80000000 ∧
      (Tables.ofLayer (l.reordered p)).billboards.length = (Tables.ofLayer l).billboards.length ∧
      l.Accepts coverage .one ⟨0, by decide⟩ ∧ l.Accepts coverage .one ⟨2, by decide⟩ ∧
      (IndexProgram.compile l coverage).value.evaluate .one = 0 ∧
      (IndexProgram.compile (l.reordered p) coverage).value.evaluate .one = 0 := by
  intro bush l p legend coverage
  have hshort : l.biomes.length < 0x80000000 := by decide
  have hfirst : l.Accepts coverage .one ⟨0, by decide⟩ := ⟨by decide, by decide⟩
  have hlast : l.Accepts coverage .one ⟨2, by decide⟩ := ⟨by decide, by decide⟩
  obtain ⟨⟨htotal, -⟩, -, hsamples⟩ := reordering_only_renumbers l hshort p legend ⟨"s", "m"⟩
  obtain ⟨-, -, hleast⟩ := hsamples .one
  have hplace : (p ⟨2, by decide⟩ : Nat) = 0 := by
    rw [Equiv.swap_apply_right]
  have hindex := hleast ⟨2, by decide⟩ hlast fun j _ => Fin.le_def.mpr (by omega)
  exact ⟨hshort, htotal, hfirst, hlast, by decide, hindex.trans (congrArg _ hplace)⟩

end Groundcover
