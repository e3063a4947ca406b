import Groundcover.Proofs.Tables

/-!
The tables of a layer as its biomes laid end to end. Tables of two runs of biomes are those of the
first, followed by those of the second with every index raised by the billboards of the first; all
else about places in the tables comes from that, or from the same walk along the biomes.
-/

namespace Groundcover

/-- The layer with other biomes. -/
def Layer.withBiomes (l : Layer) (biomes : List Biome) : Layer := { l with biomes := biomes }

theorem Layer.total_with_biomes (l : Layer) (biomes : List Biome) :
    (l.withBiomes biomes).totalBillboards = (biomes.flatMap Biome.billboards).length :=
  Layer.total_billboards_eq _

/-- The billboard at a place belongs to the biome of the row. -/
def BiomeRecord.Covers (r : BiomeRecord) (k : Nat) : Prop := r.first ≤ k ∧ k < r.first + r.count

namespace Tables

/-- Every index in the tables, raised. -/
def raised (n : Nat) (t : Tables) : Tables :=
  ⟨t.biomes.map fun r => { r with first := n + r.first },
    t.billboards.map fun r => { r with index := n + r.index }⟩

/-- The rows of both tables below those of two others. -/
def append (t u : Tables) : Tables := ⟨t.biomes ++ u.biomes, t.billboards ++ u.billboards⟩

/-- Each range begins where the one before it ends, from `first` to `last`. -/
def Consecutive (first : Nat) : List BiomeRecord → Nat → Prop
  | [], last => first = last
  | r :: rest, last => r.first = first ∧ Consecutive (first + r.count) rest last

section Ranges

variable {first last k : Nat} {rows : List BiomeRecord}

theorem Consecutive.starts_after (h : Consecutive first rows last) :
    ∀ r ∈ rows, first ≤ r.first := by
  induction rows generalizing first with
  | nil => exact List.forall_mem_nil _
  | cons r rest ih =>
    obtain ⟨hr, hrest⟩ := h
    intro s hs
    rcases List.mem_cons.mp hs with rfl | hs
    · exact Nat.le_of_eq hr.symm
    · have := ih hrest s hs
      omega

theorem Consecutive.disjoint (h : Consecutive first rows last) :
    rows.Pairwise fun r s => ∀ k, ¬(r.Covers k ∧ s.Covers k) := by
  induction rows generalizing first with
  | nil => exact List.Pairwise.nil
  | cons r rest ih =>
    obtain ⟨hr, hrest⟩ := h
    refine List.Pairwise.cons ?_ (ih hrest)
    intro s hs k hboth
    obtain ⟨⟨-, hbefore⟩, hafter, -⟩ := hboth
    have hstart := hrest.starts_after s hs
    omega

theorem Consecutive.le (h : Consecutive first rows last) : first ≤ last := by
  induction rows generalizing first with
  | nil => exact Nat.le_of_eq h
  | cons r rest ih =>
    have := ih h.2
    omega

theorem Consecutive.covers_iff (h : Consecutive first rows last) :
    (∃ r ∈ rows, r.Covers k) ↔ first ≤ k ∧ k < last := by
  induction rows generalizing first with
  | nil =>
    obtain rfl : first = last := h
    constructor
    · rintro ⟨r, hr, -⟩
      cases hr
    · omega
  | cons r rest ih =>
    obtain ⟨hr, hrest⟩ := h
    have hle := hrest.le
    have hsplit : (∃ s ∈ r :: rest, s.Covers k) ↔ r.Covers k ∨ ∃ s ∈ rest, s.Covers k := by simp
    rw [hsplit, ih hrest, BiomeRecord.Covers, hr]
    omega

end Ranges

section Biomes

variable (p : LayerParams) (first : Nat)

theorem biome_records_length (biomes : List Biome) :
    (biomeRecords p first biomes).length = biomes.length := by
  induction biomes generalizing first with
  | nil => rfl
  | cons b rest ih => rw [biomeRecords, List.length_cons, List.length_cons, ih]

theorem biome_records_consecutive (biomes : List Biome) :
    Consecutive first (biomeRecords p first biomes)
      (first + (biomes.flatMap Biome.billboards).length) := by
  induction biomes generalizing first with
  | nil => rfl
  | cons b rest ih =>
    refine ⟨rfl, ?_⟩
    rw [List.flatMap_cons, List.length_append, ← Nat.add_assoc]
    exact ih (first + b.billboards.length)

theorem biome_records_append (front back : List Biome) :
    biomeRecords p first (front ++ back) = biomeRecords p first front ++
      biomeRecords p (first + (front.flatMap Biome.billboards).length) back := by
  induction front generalizing first with
  | nil => rfl
  | cons b rest ih =>
    rw [List.cons_append, biomeRecords, ih, biomeRecords, List.flatMap_cons, List.length_append,
      Nat.add_assoc]
    rfl

theorem biome_records_raised (n : Nat) (biomes : List Biome) :
    biomeRecords p (n + first) biomes =
      (biomeRecords p first biomes).map fun r => { r with first := n + r.first } := by
  induction biomes generalizing first with
  | nil => rfl
  | cons b rest ih => rw [biomeRecords, Nat.add_assoc, ih, biomeRecords, List.map_cons]

end Biomes

theorem billboard_records_raised (n first : Nat) (billboards : List Billboard) :
    billboardRecords (n + first) billboards =
      (billboardRecords first billboards).map fun r => { r with index := n + r.index } := by
  induction billboards generalizing first with
  | nil => rfl
  | cons b rest ih =>
    have hrest := ih (first + 1)
    rw [← Nat.add_assoc] at hrest
    simp only [billboardRecords, List.zipIdx_cons, List.map_cons] at hrest ⊢
    rw [hrest]

/-- Laying biomes end to end appends their tables, with what comes behind moved up. -/
theorem of_layer_append (l : Layer) (front back : List Biome) :
    ofLayer (l.withBiomes (front ++ back)) = (ofLayer (l.withBiomes front)).append
      ((ofLayer (l.withBiomes back)).raised (l.withBiomes front).totalBillboards) := by
  rw [Layer.total_with_biomes]
  rw [of_layer_eq, of_layer_eq, of_layer_eq]
  unfold append raised Layer.withBiomes
  dsimp only
  rw [List.flatMap_append, biome_records_append, billboard_records_append, Nat.zero_add,
    ← biome_records_raised, ← billboard_records_raised, Nat.add_zero]

theorem of_layer_row (l : Layer) (i : Fin l.biomes.length) :
    (ofLayer l).biomes[(i : Nat)]? = some ⟨(l.withBiomes (l.biomes.take i)).totalBillboards,
      (l.biomes.get i).billboards.length, l.params.density, l.params.fill⟩ := by
  have hsplit : l.biomes = l.biomes.take i ++ l.biomes.get i :: l.biomes.drop (i + 1) := by
    rw [List.get_eq_getElem, ← List.drop_eq_getElem_cons i.isLt, List.take_append_drop]
  have hlength : (biomeRecords l.params 0 (l.biomes.take i)).length = i := by
    rw [biome_records_length, List.length_take]
    omega
  have hrow : (ofLayer l).biomes = biomeRecords l.params 0 (l.biomes.take i) ++
      biomeRecords l.params (l.withBiomes (l.biomes.take i)).totalBillboards
        (l.biomes.get i :: l.biomes.drop (i + 1)) := by
    rw [Layer.total_with_biomes, of_layer_eq]
    conv => lhs; rw [hsplit]
    rw [biome_records_append, Nat.zero_add]
  rw [hrow, List.getElem?_append_right (Nat.le_of_eq hlength), hlength, Nat.sub_self]
  rfl

end Tables

/-- The tables of a layer have a row for each biome and one for each billboard. A biome's row
begins behind the billboards of all biomes before it, and from there on are its own; the ranges of
the biomes share out all billboards. Cutting the biomes anywhere cuts the tables in two, the second
of them moved up. -/
theorem tables_lay_biomes_end_to_end (l : Layer) :
    let t := (Tables.compile l).value
    t.biomes.length = l.biomes.length ∧
    (∀ i : Fin l.biomes.length, ∃ row, t.biomes[(i : Nat)]? = some row ∧
      row.first = (l.withBiomes (l.biomes.take i)).totalBillboards ∧
      row.count = (l.biomes.get i).billboards.length ∧
      row.density = l.params.density ∧ row.fill = l.params.fill ∧
      ∀ j : Fin (l.biomes.get i).billboards.length, t.billboards[row.first + j]? =
        some ⟨row.first + j, ((l.biomes.get i).billboards.get j).width,
          ((l.biomes.get i).billboards.get j).height⟩) ∧
    t.billboards.map BillboardRecord.index = List.range l.totalBillboards ∧
    Tables.Consecutive 0 t.biomes l.totalBillboards ∧
    (t.biomes.Pairwise fun r s => ∀ k, ¬(r.Covers k ∧ s.Covers k)) ∧
    (∀ k, (∃ r ∈ t.biomes, r.Covers k) ↔ k < l.totalBillboards) ∧
    ∀ n, t = ((Tables.compile (l.withBiomes (l.biomes.take n))).value).append
      ((Tables.compile (l.withBiomes (l.biomes.drop n))).value.raised
        (l.withBiomes (l.biomes.take n)).totalBillboards) := by
  have hranges : Tables.Consecutive 0 (Tables.ofLayer l).biomes l.totalBillboards := by
    have h := Tables.biome_records_consecutive l.params 0 l.biomes
    rw [Nat.zero_add, ← Layer.total_billboards_eq] at h
    rw [Tables.of_layer_eq]
    exact h
  have hlength : (Tables.ofLayer l).biomes.length = l.biomes.length := by
    rw [Tables.of_layer_eq]
    exact Tables.biome_records_length _ _ _
  have hnumbers : (Tables.ofLayer l).billboards.map BillboardRecord.index =
      List.range l.totalBillboards := by
    rw [Tables.of_layer_eq, Layer.total_billboards_eq, List.range_eq_range']
    exact Tables.billboard_records_index 0 _
  refine ⟨hlength, fun i => ?_, hnumbers, hranges, hranges.disjoint, fun k => ?_, fun n => ?_⟩
  · refine ⟨_, Tables.of_layer_row l i, rfl, rfl, rfl, rfl, fun j => ?_⟩
    exact Tables.of_layer_billboards l (List.getElem?_eq_getElem i.isLt) (Tables.of_layer_row l i)
      (List.getElem?_eq_getElem j.isLt)
  · exact hranges.covers_iff.trans (and_iff_right (Nat.zero_le k))
  · have h := Tables.of_layer_append l (l.biomes.take n) (l.biomes.drop n)
    rw [List.take_append_drop] at h
    exact h

end Groundcover
