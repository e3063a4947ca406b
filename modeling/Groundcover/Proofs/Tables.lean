import Groundcover.Tables

/-!
How the tables of a layer refer to each other. The billboards of a biome stand together, from the
place that its row names on, and every billboard is numbered by its own place.
-/

namespace Groundcover

theorem Layer.total_billboards_eq (l : Layer) :
    l.totalBillboards = (l.biomes.flatMap Biome.billboards).length := by
  unfold totalBillboards
  induction l.biomes with
  | nil => rfl
  | cons b rest ih => rw [List.foldr_cons, ih, List.flatMap_cons, List.length_append]

namespace Tables

/-- Rows of biomes, the first of which begins with the billboard numbered `first`. -/
def biomeRecords (p : LayerParams) (first : Nat) : List Biome → List BiomeRecord
  | [] => []
  | b :: rest =>
    ⟨first, b.billboards.length, p.density, p.fill⟩
      :: biomeRecords p (first + b.billboards.length) rest

/-- Rows of billboards, numbered from `first` on. -/
def billboardRecords (first : Nat) (billboards : List Billboard) : List BillboardRecord :=
  (billboards.zipIdx first).map fun (b, i) => ⟨i, b.width, b.height⟩

namespace Filling

/-- The billboards of a biome are numbered on from those that are there. -/
theorem add_billboards (f : Filling) (billboards : List Billboard) :
    billboards.foldl addBillboard f =
      { f with
        billboards := f.billboards ++ billboardRecords f.next billboards
        next := f.next + billboards.length } := by
  induction billboards generalizing f with
  | nil => simp [billboardRecords]
  | cons b rest ih =>
    rw [List.foldl_cons, ih]
    simp [addBillboard, billboardRecords, Nat.add_assoc, Nat.add_comm 1]

/-- Biomes are numbered through: each begins where the billboards of those before it end. -/
theorem add_biomes (p : LayerParams) (f : Filling) (biomes : List Biome) :
    biomes.foldl (addBiome p) f =
      { biomes := f.biomes ++ biomeRecords p f.next biomes
        billboards := f.billboards ++ billboardRecords f.next (biomes.flatMap Biome.billboards)
        next := f.next + (biomes.flatMap Biome.billboards).length } := by
  induction biomes generalizing f with
  | nil => simp [biomeRecords, billboardRecords]
  | cons b rest ih =>
    rw [List.foldl_cons, addBiome, add_billboards, ih]
    simp [biomeRecords, billboardRecords, List.zipIdx_append, Nat.add_assoc]

end Filling

/-- One pass with a counter numbers the billboards as they stand when all biomes
are put together. -/
theorem of_layer_eq (l : Layer) : ofLayer l =
    ⟨biomeRecords l.params 0 l.biomes, billboardRecords 0 (l.biomes.flatMap Biome.billboards)⟩ := by
  rw [ofLayer, Filling.add_biomes]
  rfl

/-- With some billboards before those of the biomes, the row of a biome names the stretch of all
billboards that holds its own. -/
theorem biome_records_get (p : LayerParams) (before : List Billboard) {biomes : List Biome}
    {i : Nat} {b : Biome} (h : biomes[i]? = some b) :
    ∃ front back, before ++ biomes.flatMap Biome.billboards = front ++ b.billboards ++ back ∧
      (biomeRecords p before.length biomes)[i]? =
        some ⟨front.length, b.billboards.length, p.density, p.fill⟩ := by
  induction biomes generalizing before i with
  | nil => cases h
  | cons c rest ih =>
    cases i with
    | zero =>
      obtain rfl : c = b := Option.some.inj h
      exact ⟨before, rest.flatMap Biome.billboards, by simp, rfl⟩
    | succ i =>
      obtain ⟨front, back, hsplit, hrow⟩ := ih (before ++ c.billboards) h
      refine ⟨front, back, by rw [← hsplit, List.flatMap_cons, List.append_assoc], ?_⟩
      rwa [List.length_append] at hrow

/-- Every row of a biome has the density and the fill of the layer. -/
theorem biome_records_params (p : LayerParams) (first : Nat) (biomes : List Biome) :
    ∀ r ∈ biomeRecords p first biomes, r.density = p.density ∧ r.fill = p.fill := by
  induction biomes generalizing first with
  | nil => exact nofun
  | cons b rest ih => exact List.forall_mem_cons.mpr ⟨⟨rfl, rfl⟩, ih _⟩

theorem billboard_records_get (first : Nat) {billboards : List Billboard} {k : Nat} {b : Billboard}
    (h : billboards[k]? = some b) :
    (billboardRecords first billboards)[k]? = some ⟨first + k, b.width, b.height⟩ := by
  rw [billboardRecords, List.getElem?_map, List.getElem?_zipIdx, h]
  rfl

theorem billboard_records_append (first : Nat) (front back : List Billboard) :
    billboardRecords first (front ++ back) =
      billboardRecords first front ++ billboardRecords (first + front.length) back := by
  rw [billboardRecords, List.zipIdx_append, List.map_append]
  rfl

theorem billboard_records_length (first : Nat) (billboards : List Billboard) :
    (billboardRecords first billboards).length = billboards.length := by
  rw [billboardRecords, List.length_map, List.length_zipIdx]

theorem billboard_records_index (first : Nat) (billboards : List Billboard) :
    (billboardRecords first billboards).map BillboardRecord.index =
      List.range' first billboards.length := by
  rw [billboardRecords, List.map_map, ← List.zipIdx_map_snd first billboards]
  rfl

/-- The row of a biome names the stretch of all billboards that holds its own. -/
theorem of_layer_get (l : Layer) {i : Nat} {b : Biome} (h : l.biomes[i]? = some b) :
    ∃ front back, l.biomes.flatMap Biome.billboards = front ++ b.billboards ++ back ∧
      (ofLayer l).biomes[i]? =
        some ⟨front.length, b.billboards.length, l.params.density, l.params.fill⟩ := by
  rw [of_layer_eq]
  exact biome_records_get l.params [] h

end Tables

/-- What a lookup of a biome in tables finds: the biome's own numbers, and from the first billboard
that its row names on, its own billboards. No number on the way is too large for an `int`. -/
structure Layer.RowFits (l : Layer) (t : Tables) (biome : Biome) (row : BiomeRecord) : Prop where
  count : row.count = biome.billboards.length
  density : row.density = l.params.density
  fill : row.fill = l.params.fill
  small : row.first + row.count < 0x80000000
  billboards : ∀ j b, biome.billboards[j]? = some b →
    t.billboards[row.first + j]? = some ⟨row.first + j, b.width, b.height⟩

/-- From the place that its row names on, a biome's billboards stand in order. -/
theorem Tables.of_layer_billboards (l : Layer) {i : Nat} {biome : Biome} {row : BiomeRecord}
    (hi : l.biomes[i]? = some biome) (hrow : (ofLayer l).biomes[i]? = some row) {j : Nat}
    {b : Billboard} (hj : biome.billboards[j]? = some b) :
    (ofLayer l).billboards[row.first + j]? = some ⟨row.first + j, b.width, b.height⟩ := by
  obtain ⟨front, back, hsplit, hrow'⟩ := of_layer_get l hi
  obtain rfl : _ = row := Option.some.inj (hrow'.symm.trans hrow)
  have hj' : (l.biomes.flatMap Biome.billboards)[front.length + j]? = some b := by
    obtain ⟨hlt, -⟩ := List.getElem?_eq_some_iff.mp hj
    rw [hsplit, List.append_assoc, List.getElem?_append_right (by omega), Nat.add_sub_cancel_left,
      List.getElem?_append_left hlt, hj]
  have hrecord := billboard_records_get 0 hj'
  rw [Nat.zero_add] at hrecord
  rw [of_layer_eq]
  exact hrecord

/-- Every biome of a layer has a row that fits it. -/
theorem Tables.of_layer_row_fits (l : Layer) (h : l.totalBillboards < 0x80000000) {i : Nat}
    {biome : Biome} (hi : l.biomes[i]? = some biome) :
    ∃ row, (ofLayer l).biomes[i]? = some row ∧ l.RowFits (ofLayer l) biome row := by
  obtain ⟨front, back, hsplit, hrow⟩ := of_layer_get l hi
  refine ⟨_, hrow, rfl, rfl, rfl, ?_, fun j b hj => of_layer_billboards l hi hrow hj⟩
  have hlength := congrArg List.length hsplit
  rw [← l.total_billboards_eq, List.length_append, List.length_append] at hlength
  dsimp only
  omega

end Groundcover
