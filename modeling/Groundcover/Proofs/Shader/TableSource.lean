import Groundcover.Proofs.Shader.Statements
import Groundcover.Shader.TableSource

/-!
The source of tables, read back by a reader that knows nothing but the options. It gives the rows
that were written, in order; a table without rows gives the one row of zeros that stands for it.
-/

namespace Groundcover

namespace BiomeRecord

/-- The row that stands for a table without biomes. -/
def zero : BiomeRecord := ⟨0, 0, .zero, .zero⟩

def IsFinite (r : BiomeRecord) : Prop := r.density.isFinite = true ∧ r.fill.isFinite = true

end BiomeRecord

namespace BillboardRecord

/-- The row that stands for a table without billboards. -/
def zero : BillboardRecord := ⟨0, .zero, .zero⟩

def IsFinite (r : BillboardRecord) : Prop := r.width.isFinite = true ∧ r.height.isFinite = true

end BillboardRecord

/-- Rows as they are written, which are never none. -/
def shownRows {α : Type} (zero : α) : List α → List α
  | [] => [zero]
  | rows => rows

namespace Tables

/-- The tables as they are written. -/
def shown (t : Tables) : Tables := ⟨shownRows .zero t.biomes, shownRows .zero t.billboards⟩

/-- All numbers in the tables are finite. -/
structure IsFinite (t : Tables) : Prop where
  biomes : ∀ r ∈ t.biomes, r.IsFinite
  billboards : ∀ r ∈ t.billboards, r.IsFinite

end Tables

namespace Source

namespace Reader

variable {α : Type}

/-- A constant array, whose length stands in its type, in its constructor and in its rows. -/
def array (type name : String) (row : Reader α) : Reader (List α) := do
  expect ("const " ++ type ++ " " ++ name ++ "[")
  let declared ← number
  expect "] = "
  expect (type ++ "[")
  let constructed ← number
  expect "](\n    "
  let first ← row
  let others ← each ",\n    " row
  expect "\n);\n"
  let rows := first :: others
  lift (if declared = rows.length ∧ constructed = rows.length then some rows else none)

def biomeRow (type : String) : Reader BiomeRecord := do
  expect (type ++ "(")
  let first ← number
  expect ", "
  let count ← number
  expect ", "
  let density ← single
  expect ", "
  let fill ← single
  expect ")"
  return ⟨first, count, density, fill⟩

def billboardRow (type : String) : Reader BillboardRecord := do
  expect (type ++ "(")
  let index ← number
  expect ", "
  let width ← single
  expect ", "
  let height ← single
  expect ")"
  return ⟨index, width, height⟩

/-- A structure with its fields, an array of it, and a function that hands out a row. -/
def table (type name accessor param : String) (fields : List String) (row : Reader α) :
    Reader (List α) := do
  expect ("struct " ++ type ++ " \x7b\n")
  expect (String.join (fields.map fun field => "    " ++ field ++ ";\n"))
  expect "\x7d;\n"
  let rows ← array type name row
  expect ("void " ++ accessor ++ "(in int index, out " ++ type ++ " " ++ param ++ ") \x7b\n")
  expect ("    " ++ param ++ " = " ++ name ++ "[index];\n\x7d\n")
  return rows

def biomeTable (o : ShaderOptions) : Reader (List BiomeRecord) :=
  table (o.ident "Biome") (o.ident "biomes") (o.ident "getBiome") "biome"
    ["int firstBillboardIndex", "int numBillboards", "float density", "float fill"]
    (biomeRow (o.ident "Biome"))

def billboardTable (o : ShaderOptions) : Reader (List BillboardRecord) :=
  table (o.ident "Billboard") (o.ident "billboards") (o.ident "getBillboard") "billboard"
    ["int arrayIndex", "float width", "float height"] (billboardRow (o.ident "Billboard"))

/-- The tables of a layer, as the options name them. -/
def tables (o : ShaderOptions) : Reader Tables := do
  expect ("#version " ++ toString o.version.toNat ++ "\n")
  let biomes ← biomeTable o
  expect "\n"
  let billboards ← billboardTable o
  return ⟨biomes, billboards⟩

end Reader

end Source

namespace TableSource

theorem biome_row_text (type : String) (r : BiomeRecord) :
    (biomeRow type r).toList = (type ++ "(").toList ++ ((toString r.first).toList ++
      (", ".toList ++ ((toString r.count).toList ++ (", ".toList ++ (r.density.literal.toList ++
        (", ".toList ++ (r.fill.literal.toList ++ ")".toList))))))) := by
  change (type ++ "(" ++ (toString r.first ++ ", " ++ toString r.count ++ ", "
    ++ r.density.literal ++ ", " ++ r.fill.literal) ++ ")").toList = _
  simp only [String.toList_append, List.append_assoc]

theorem billboard_row_text (type : String) (r : BillboardRecord) :
    (billboardRow type r).toList = (type ++ "(").toList ++ ((toString r.index).toList ++
      (", ".toList ++ (r.width.literal.toList ++ (", ".toList ++ (r.height.literal.toList ++
        ")".toList))))) := by
  change (type ++ "(" ++ (toString r.index ++ ", " ++ r.width.literal ++ ", "
    ++ r.height.literal) ++ ")").toList = _
  simp only [String.toList_append, List.append_assoc]

/-- The first row stands alone, each further one behind a comma and a line feed. -/
theorem row_lines_text (row : String) (rest : List String) :
    (unlines (rowLines (row :: rest))).toList = "    ".toList ++ (row.toList ++
      ((rest.flatMap fun row => ",\n    ".toList ++ row.toList) ++ ['\n'])) := by
  induction rest generalizing row with
  | nil => simp [rowLines, unlines_text]
  | cons next rest ih =>
    have hnext := ih next
    rw [unlines_text] at hnext ⊢
    rw [rowLines, List.flatMap_cons, hnext]
    · simp
    · simp

/-- The lines of an array with at least one row. -/
theorem array_lines_text (type name row : String) (rest : List String) :
    (unlines (arrayLines type name (row :: rest))).toList =
      ("const " ++ type ++ " " ++ name ++ "[").toList ++
        ((toString (row :: rest).length).toList ++ ("] = ".toList ++ ((type ++ "[").toList ++
          ((toString (row :: rest).length).toList ++ ("](\n    ".toList ++ (row.toList ++
            ((rest.flatMap fun row => ",\n    ".toList ++ row.toList) ++
              "\n);\n".toList))))))) := by
  have hrows := row_lines_text row rest
  rw [unlines_text] at hrows ⊢
  rw [arrayLines, List.flatMap_append, List.flatMap_cons, hrows]
  simp

theorem struct_lines_text (type : String) (fields : List String) :
    (unlines (structLines type fields)).toList = ("struct " ++ type ++ " \x7b\n").toList ++
      ((String.join (fields.map fun field => "    " ++ field ++ ";\n")).toList ++
        "\x7d;\n".toList) := by
  simp [structLines, unlines_text, String.toList_join, List.flatMap_map]

theorem accessor_lines_text (accessor type param name : String) :
    (unlines (accessorLines accessor type param name)).toList =
      ("void " ++ accessor ++ "(in int index, out " ++ type ++ " " ++ param ++ ") \x7b\n").toList ++
        ("    " ++ param ++ " = " ++ name ++ "[index];\n\x7d\n").toList := by
  simp [accessorLines, unlines_text]

end TableSource

namespace Source.Reads

open TableSource

variable {α β : Type}

theorem biome_row (type : String) {r : BiomeRecord} (h : r.IsFinite) :
    Reads Anything (Reader.biomeRow type) (biomeRow type r).toList r := by
  rw [biome_row_text]
  refine behind _ ((number r.first).bind (behind ", " ?_) fun _ _ => rfl)
  refine (number r.count).bind (behind ", " ?_) fun _ _ => rfl
  refine (single h.1).bind (behind ", " ?_) fun _ _ => rfl
  exact (single h.2).bind (map (fun _ => r) (expect ")")) fun _ _ => rfl

theorem billboard_row (type : String) {r : BillboardRecord} (h : r.IsFinite) :
    Reads Anything (Reader.billboardRow type) (billboardRow type r).toList r := by
  rw [billboard_row_text]
  refine behind _ ((number r.index).bind (behind ", " ?_) fun _ _ => rfl)
  refine (single h.1).bind (behind ", " ?_) fun _ _ => rfl
  exact (single h.2).bind (map (fun _ => r) (expect ")")) fun _ _ => rfl

section Rows

variable {row : Reader α} (first : β) (rest : List β) (shown : β → String) (meant : β → α)
  (h : ∀ x ∈ first :: rest, Reads Anything row (shown x).toList (meant x))
include h

/-- An array with at least one row is read as its rows, and its length is the same everywhere. -/
theorem array (type name : String) :
    Reads Anything (Reader.array type name row)
      (unlines (arrayLines type name ((first :: rest).map shown))).toList
      ((first :: rest).map meant) := by
  rw [List.map_cons, array_lines_text, ← List.map_cons, List.length_map, List.flatMap_map]
  refine behind _ ((number _).bind (behind "] = " (behind _ ?_)) fun _ _ => rfl)
  refine (number _).bind (behind "](\n    " ?_) fun _ _ => rfl
  refine (h first List.mem_cons_self).bind ?_ fun _ _ => trivial
  have hothers := each ",\n    " meant (by decide) (fun _ => trivial)
    fun x hx => h x (List.mem_cons_of_mem first hx)
  rw [← List.append_nil "\n);\n".toList]
  refine hothers.bind (behind "\n);\n" (lift ?_)) fun _ _ => ⟨trivial, rfl⟩
  simp

theorem table (type name accessor param : String) (fields : List String) :
    Reads Anything (Reader.table type name accessor param fields row)
      (unlines (structLines type fields ++ arrayLines type name ((first :: rest).map shown) ++
        accessorLines accessor type param name)).toList
      ((first :: rest).map meant) := by
  rw [unlines_append, unlines_append, String.toList_append, String.toList_append,
    struct_lines_text, accessor_lines_text]
  simp only [List.append_assoc]
  refine behind _ (behind _ (behind "\x7d;\n" ?_))
  refine (array first rest shown meant h type name).bind (behind _ ?_) fun _ _ => trivial
  exact map (fun _ => (first :: rest).map meant) (expect _)

end Rows

end Source.Reads

theorem Single.literal_zero : Single.zero.literal = "0.0" := by
  decide

theorem shown_rows_cons {α : Type} (zero : α) (rows : List α) :
    ∃ first rest, shownRows zero rows = first :: rest := by
  cases rows with
  | nil => exact ⟨zero, [], rfl⟩
  | cons first rest => exact ⟨first, rest, rfl⟩

theorem shown_rows_all {α : Type} {p : α → Prop} (zero : α) {rows : List α} (hzero : p zero)
    (h : ∀ r ∈ rows, p r) : ∀ r ∈ shownRows zero rows, p r := by
  cases rows with
  | nil => simpa [shownRows] using hzero
  | cons first rest => exact h

theorem shown_rows_get {α : Type} (zero : α) {rows : List α} {i : Nat} {r : α}
    (h : rows[i]? = some r) : (shownRows zero rows)[i]? = some r := by
  cases rows with
  | nil => cases h
  | cons first rest => exact h

namespace TableSource

/-- The row in the place of none is the row of zeros. -/
theorem or_sentinel_map {α : Type} (zero : α) (row : α → String) (rows : List α) :
    orSentinel (row zero) (rows.map row) = (shownRows zero rows).map row := by
  cases rows <;> rfl

theorem biome_sentinel (type : String) :
    call type ["0", "0", "0.0", "0.0"] = biomeRow type .zero := by
  rw [biomeRow, BiomeRecord.zero, Single.literal_zero]
  rfl

theorem billboard_sentinel (type : String) :
    call type ["0", "0.0", "0.0"] = billboardRow type .zero := by
  rw [billboardRow, BillboardRecord.zero, Single.literal_zero]
  rfl

theorem biome_lines_eq (o : ShaderOptions) (rows : List BiomeRecord) :
    biomeLines o rows = structLines (o.ident "Biome") biomeFields ++
      arrayLines (o.ident "Biome") (o.ident "biomes")
        ((shownRows .zero rows).map (biomeRow (o.ident "Biome"))) ++
      accessorLines (o.ident "getBiome") (o.ident "Biome") "biome" (o.ident "biomes") := by
  rw [← or_sentinel_map, ← biome_sentinel]
  rfl

theorem billboard_lines_eq (o : ShaderOptions) (rows : List BillboardRecord) :
    billboardLines o rows = structLines (o.ident "Billboard") billboardFields ++
      arrayLines (o.ident "Billboard") (o.ident "billboards")
        ((shownRows .zero rows).map (billboardRow (o.ident "Billboard"))) ++
      accessorLines (o.ident "getBillboard") (o.ident "Billboard") "billboard"
        (o.ident "billboards") := by
  rw [← or_sentinel_map, ← billboard_sentinel]
  rfl

end TableSource

namespace Source

open TableSource

namespace Reads

theorem biome_table (o : ShaderOptions) {rows : List BiomeRecord} (h : ∀ r ∈ rows, r.IsFinite) :
    Reads Anything (Reader.biomeTable o) (unlines (biomeLines o rows)).toList
      (shownRows .zero rows) := by
  have hshown := shown_rows_all .zero ⟨rfl, rfl⟩ h
  obtain ⟨first, rest, hrows⟩ := shown_rows_cons .zero rows
  rw [biome_lines_eq, hrows]
  rw [hrows] at hshown
  have hread := table first rest (TableSource.biomeRow (o.ident "Biome")) id
    fun r hr => biome_row _ (hshown r hr)
  rw [List.map_id] at hread
  exact hread (o.ident "Biome") (o.ident "biomes") (o.ident "getBiome") "biome" biomeFields

theorem billboard_table (o : ShaderOptions) {rows : List BillboardRecord}
    (h : ∀ r ∈ rows, r.IsFinite) :
    Reads Anything (Reader.billboardTable o) (unlines (billboardLines o rows)).toList
      (shownRows .zero rows) := by
  have hshown := shown_rows_all .zero ⟨rfl, rfl⟩ h
  obtain ⟨first, rest, hrows⟩ := shown_rows_cons .zero rows
  rw [billboard_lines_eq, hrows]
  rw [hrows] at hshown
  have hread := table first rest (TableSource.billboardRow (o.ident "Billboard")) id
    fun r hr => billboard_row _ (hshown r hr)
  rw [List.map_id] at hread
  exact hread (o.ident "Billboard") (o.ident "billboards") (o.ident "getBillboard") "billboard"
    billboardFields

end Reads

end Source

open Source in
/-- The source of tables with finite numbers reads as the tables, with a row of zeros in the place
of no rows. -/
theorem Tables.source_reads (o : ShaderOptions) {t : Tables} (h : t.IsFinite) :
    (Reader.tables o).whole? (t.source o).toList = some t.shown := by
  have hversion : (unlines [o.versionLine]).toList =
      ("#version " ++ toString o.version.toNat ++ "\n").toList := by
    simp [unlines_text, ShaderOptions.versionLine]
  have hlines : TableSource.lines o t = [o.versionLine] ++ (TableSource.biomeLines o t.biomes ++
      ([""] ++ TableSource.billboardLines o t.billboards)) := by simp [TableSource.lines]
  rw [source, hlines, unlines_append, unlines_append, unlines_append, String.toList_append,
    String.toList_append, String.toList_append, hversion]
  have hbillboards := Reads.map (Tables.mk (shownRows .zero t.biomes))
    (Reads.billboard_table o h.billboards)
  exact (Reads.behind _ ((Reads.biome_table o h.biomes).bind (Reads.behind "\n" hbillboards)
    fun _ _ => trivial)).whole trivial

/-- A text with an array of some rows, whose number stands in its type and in its constructor. -/
def Source.HasArray (text type name : String) (rows : List String) : Prop :=
  ∃ front back, text = front ++ ("const " ++ type ++ " " ++ name ++ "[" ++ toString rows.length ++
    "] = " ++ type ++ "[" ++ toString rows.length ++ "](\n" ++
    unlines (TableSource.rowLines rows) ++ ");\n") ++ back

theorem Source.has_array_of_lines (front back : List String) (type name : String)
    (rows : List String) :
    HasArray (unlines (front ++ TableSource.arrayLines type name rows ++ back)) type name rows := by
  refine ⟨unlines front, unlines back, ?_⟩
  rw [unlines_append, unlines_append]
  congr 2
  apply String.toList_inj.mp
  simp [TableSource.arrayLines, unlines_text]

theorem shown_rows_length {α : Type} (zero : α) (rows : List α) :
    (shownRows zero rows).length = max 1 rows.length := by
  cases rows with
  | nil => rfl
  | cons first rest => simp [shownRows]

theorem shown_rows_idem {α : Type} (zero : α) (rows : List α) :
    shownRows zero (shownRows zero rows) = shownRows zero rows := by
  cases rows <;> rfl

namespace Tables

open TableSource

/-- A table without rows has the same source as one with a row of zeros. -/
theorem source_shown (o : ShaderOptions) (t : Tables) : t.shown.source o = t.source o := by
  have hbiomes : biomeLines o t.shown.biomes = biomeLines o t.biomes := by
    rw [biome_lines_eq, biome_lines_eq, shown, shown_rows_idem]
  have hbillboards : billboardLines o t.shown.billboards = billboardLines o t.billboards := by
    rw [billboard_lines_eq, billboard_lines_eq, shown, shown_rows_idem]
  rw [source, source, lines, lines, hbiomes, hbillboards]

theorem source_has_biomes (o : ShaderOptions) (t : Tables) :
    Source.HasArray (t.source o) (o.ident "Biome") (o.ident "biomes")
      (t.shown.biomes.map (biomeRow (o.ident "Biome"))) := by
  have hlines : lines o t = (o.versionLine :: structLines (o.ident "Biome") biomeFields) ++
      arrayLines (o.ident "Biome") (o.ident "biomes")
        (t.shown.biomes.map (biomeRow (o.ident "Biome"))) ++
      (accessorLines (o.ident "getBiome") (o.ident "Biome") "biome" (o.ident "biomes") ++
        "" :: billboardLines o t.billboards) := by
    simp [lines, biome_lines_eq, shown]
  rw [source, hlines]
  exact Source.has_array_of_lines _ _ _ _ _

theorem source_has_billboards (o : ShaderOptions) (t : Tables) :
    Source.HasArray (t.source o) (o.ident "Billboard") (o.ident "billboards")
      (t.shown.billboards.map (billboardRow (o.ident "Billboard"))) := by
  have hlines : lines o t = (o.versionLine :: biomeLines o t.biomes ++
        "" :: structLines (o.ident "Billboard") billboardFields) ++
      arrayLines (o.ident "Billboard") (o.ident "billboards")
        (t.shown.billboards.map (billboardRow (o.ident "Billboard"))) ++
      accessorLines (o.ident "getBillboard") (o.ident "Billboard") "billboard"
        (o.ident "billboards") := by
    simp [lines, billboard_lines_eq, shown]
  rw [source, hlines]
  exact Source.has_array_of_lines _ _ _ _ _

/-- Tables with finite numbers have the same source only if they are written alike. -/
theorem source_eq_iff (o : ShaderOptions) {t u : Tables} (ht : t.IsFinite) (hu : u.IsFinite) :
    t.source o = u.source o ↔ t.shown = u.shown := by
  constructor
  · intro h
    have hread := source_reads o ht
    rw [h, source_reads o hu] at hread
    exact (Option.some.inj hread).symm
  · intro h
    rw [← source_shown o t, h, source_shown]

end Tables

open Source TableSource in
/-- A reader that knows the options alone gets all rows back from the source, a row of zeros
standing for a table without rows. The number of rows is declared twice, in either array. So the
source tells tables apart, but for an empty one and one with just that row. -/
theorem tables_survive_their_source (o : ShaderOptions) :
    (∀ t : Tables, t.IsFinite →
      (Reader.tables o).whole? (t.source o).toList = some t.shown ∧
      HasArray (t.source o) (o.ident "Biome") (o.ident "biomes")
        (t.shown.biomes.map (biomeRow (o.ident "Biome"))) ∧
      t.shown.biomes.length = max 1 t.biomes.length ∧
      HasArray (t.source o) (o.ident "Billboard") (o.ident "billboards")
        (t.shown.billboards.map (billboardRow (o.ident "Billboard"))) ∧
      t.shown.billboards.length = max 1 t.billboards.length) ∧
    ∀ t u : Tables, t.IsFinite → u.IsFinite → (t.source o = u.source o ↔ t.shown = u.shown) := by
  refine ⟨fun t ht => ?_, fun t u ht hu => Tables.source_eq_iff o ht hu⟩
  exact ⟨Tables.source_reads o ht, Tables.source_has_biomes o t, shown_rows_length _ _,
    Tables.source_has_billboards o t, shown_rows_length _ _⟩

open Source in
/-- Names that begin like rows, the largest and the least numbers, and no biome or one of zeros. -/
theorem tables_survive_their_source_sentinel :
    let o : ShaderOptions := { namePrefix := "1.5), (" }
    let t : Tables := ⟨[], [⟨7, ⟨0x80000001⟩, ⟨0x7f7fffff⟩⟩, ⟨0, ⟨0x80000000⟩, .one⟩]⟩
    let u : Tables := ⟨[.zero], t.billboards⟩
    t.IsFinite ∧ u.IsFinite ∧ t ≠ u ∧ t.source o = u.source o ∧
      (Reader.tables o).whole? (t.source o).toList = some u := by
  intro o t u
  have ht : t.IsFinite := ⟨by simp [t], by simp [t, BillboardRecord.IsFinite]; decide⟩
  have hu : u.IsFinite := ⟨by simp [u, BiomeRecord.IsFinite]; decide, ht.billboards⟩
  obtain ⟨hread, heq⟩ := tables_survive_their_source o
  exact ⟨ht, hu, by simp [t, u], (heq t u ht hu).mpr rfl, (hread t ht).1⟩

end Groundcover
