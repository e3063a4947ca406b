import Groundcover.Proofs.Numbers
import Groundcover.Proofs.Shader.Words

/-!
What the options of generated source change. The prefix goes in front of every declared name and
nothing else, wherever source declares or uses one, and the version stands in the first line alone.
-/

namespace Groundcover

open Source

/-- Uniforms with names that shaders do not declare. -/
def Binding.HasOwnNames (b : Binding) : Prop := IsOwnName b.sampler ∧ IsOwnName b.matrix

/-- The uniforms that the source of a program samples, which the source of a default does not. -/
def IndexProgram.binding? : IndexProgram → Option Binding
  | fallback _ => none
  | lookup b _ => some b

def CoverageProgram.binding? : CoverageProgram → Option Binding
  | fallback _ => none
  | acceptAll b => some b
  | test b _ => some b

/-- The prefix goes in front of the declared names and changes nothing else. -/
def RenamesDeclared (source : ShaderOptions → String) : Prop :=
  ∀ (version : UInt32) (lead : String), IsIdentifier lead →
    cut (source ⟨version, lead⟩) = (cut (source ⟨version, ""⟩)).map (renamed lead) ∧
      source ⟨version, lead⟩ = String.join ((cut (source ⟨version, ""⟩)).map (renamed lead))

/-- The first line names the version, and nothing else depends on it. -/
def ShowsVersion (source : ShaderOptions → String) : Prop :=
  ∃ rest : String → String, ∀ o : ShaderOptions,
    source o = "#version " ++ toString o.version.toNat ++ "\n" ++ rest o.namePrefix

/-- No number is written with an o, whether it is finite or not. -/
theorem Single.literal_is_nameless (x : Single) : IsNameless x.literal := by
  by_cases hfinite : x.isFinite = true
  · intro ho
    rcases (decimal_of_finite hfinite).chars 'o' ho with h | h | h <;> exact absurd h (by decide)
  · have htext : 'o' ∉ x.text.toList := by
      rw [text, String.toList_ofList]
      rcases magnitude_of_not_finite (Bool.eq_false_iff.mpr hfinite) with h | h <;>
        · rw [h]
          split <;> decide
    rw [literal]
    split
    · exact htext
    · exact IsNameless.append htext (by decide)

theorem digits_are_nameless (n : Nat) : IsNameless (toString n) := fun ho =>
  absurd ((numeral_to_string n).2 'o' ho) (by decide)

section Lines

variable {lead : String}

namespace TableSource

variable {type type' name name' function function' param : String} {fields rows rows' : List String}

/-- A call whose arguments are numbers has no name in it but that of the function. -/
theorem call_renames {arguments : List String} (htype : Renames lead type type')
    (h : ∀ a ∈ arguments, IsNameless a) :
    Renames lead (call type arguments) (call type' arguments) := by
  have hjoined : IsNameless (", ".intercalate arguments) := .intercalate (by decide) h
  have hinside : IsPlain ("(" ++ ", ".intercalate arguments ++ ")") :=
    (hjoined.between (by decide) (by decide)).plain
  have hshape (function : String) : call function arguments =
      function ++ ("(" ++ ", ".intercalate arguments ++ ")") := by
    simp [call, String.append_assoc]
  rw [hshape, hshape]
  exact htype.before hinside (starts_between (by decide))

theorem struct_lines_rename (htype : Renames lead type type')
    (hfields : ∀ f ∈ fields, IsPlain ("    " ++ f ++ ";")) :
    List.Forall₂ (Renames lead) (structLines type fields) (structLines type' fields) := by
  refine .cons ?_ (List.rel_append ?_ (Renames.plain_lines (by decide)))
  · exact (htype.behind (by decide) (by decide)).before (by decide) (by decide)
  · exact Renames.map_lines fields fun f hf => .of_plain (hfields f hf)

theorem row_lines_rename (h : List.Forall₂ (Renames lead) rows rows') :
    List.Forall₂ (Renames lead) (rowLines rows) (rowLines rows') := by
  induction h with
  | nil => exact .nil
  | @cons row row' rest rest' hrow hrest ih =>
    have hline : Renames lead ("    " ++ row) ("    " ++ row') :=
      hrow.behind (by decide) (by decide)
    cases hrest with
    | nil => exact .cons hline .nil
    | cons => exact .cons (hline.before (by decide) (by decide)) ih

theorem array_lines_rename (htype : Renames lead type type') (hname : Renames lead name name')
    (h : List.Forall₂ (Renames lead) rows rows') :
    List.Forall₂ (Renames lead) (arrayLines type name rows) (arrayLines type' name' rows') := by
  have hsize : IsPlain ("[" ++ toString rows.length ++ "]") :=
    ((digits_are_nameless rows.length).between (by decide) (by decide)).plain
  have hstarts : startsWithWord ("[" ++ toString rows.length ++ "]") = false :=
    starts_between (by decide)
  have hspace : IsGap " " := by decide
  have hequals : IsGap " = " := by decide
  -- the length is a number of rows, of which there are as many with a prefix as without
  rw [arrayLines, arrayLines, ← h.length_eq]
  refine .cons ?_ (List.rel_append (row_lines_rename h) (Renames.plain_lines (by decide)))
  have hconst : Renames lead ("const " ++ type) ("const " ++ type') :=
    htype.behind (by decide) (by decide)
  have hdeclared := (hconst.across hspace hname).before hsize hstarts
  exact ((hdeclared.across hequals htype).before hsize hstarts).before (by decide) (by decide)

theorem accessor_lines_rename (hfunction : Renames lead function function')
    (htype : Renames lead type type') (hname : Renames lead name name') (hparam : IsPlain param) :
    List.Forall₂ (Renames lead) (accessorLines function type param name)
      (accessorLines function' type' param name') := by
  have hparam : Renames lead param param := .of_plain hparam
  have hindex : IsGap "(in int index, out " := by decide
  have hspace : IsGap " " := by decide
  have hequals : IsGap " = " := by decide
  have hvoid : Renames lead ("void " ++ function) ("void " ++ function') :=
    hfunction.behind (by decide) (by decide)
  have hout : Renames lead ("    " ++ param) ("    " ++ param) :=
    hparam.behind (by decide) (by decide)
  refine .cons ?_ (.cons ?_ (Renames.plain_lines (by decide)))
  · exact ((hvoid.across hindex htype).across hspace hparam).before (by decide) (by decide)
  · exact (hout.across hequals hname).before (by decide) (by decide)

/-- The structure, the array and the accessor of one kind of row. -/
theorem table_lines_rename {sentinel : List String} (htype : Renames lead type type')
    (hname : Renames lead name name') (hfunction : Renames lead function function')
    (hfields : ∀ f ∈ fields, IsPlain ("    " ++ f ++ ";"))
    (hrows : List.Forall₂ (Renames lead) rows rows') (hsentinel : ∀ a ∈ sentinel, IsNameless a)
    (hparam : IsPlain param) :
    List.Forall₂ (Renames lead)
      (structLines type fields ++ arrayLines type name (orSentinel (call type sentinel) rows) ++
        accessorLines function type param name)
      (structLines type' fields ++
        arrayLines type' name' (orSentinel (call type' sentinel) rows') ++
        accessorLines function' type' param name') := by
  have hshown : List.Forall₂ (Renames lead) (orSentinel (call type sentinel) rows)
      (orSentinel (call type' sentinel) rows') := by
    cases hrows with
    | nil => exact .cons (call_renames htype hsentinel) .nil
    | cons hrow hrest => exact .cons hrow hrest
  exact List.rel_append
    (List.rel_append (struct_lines_rename htype hfields) (array_lines_rename htype hname hshown))
    (accessor_lines_rename hfunction htype hname hparam)

theorem biome_rows_rename (htype : Renames lead type type') (rows : List BiomeRecord) :
    List.Forall₂ (Renames lead) (rows.map (biomeRow type)) (rows.map (biomeRow type')) := by
  refine Renames.map_lines rows fun r _ => call_renames htype fun a ha => ?_
  simp only [List.mem_cons, List.not_mem_nil, or_false] at ha
  rcases ha with rfl | rfl | rfl | rfl
  · exact digits_are_nameless r.first
  · exact digits_are_nameless r.count
  · exact r.density.literal_is_nameless
  · exact r.fill.literal_is_nameless

theorem billboard_rows_rename (htype : Renames lead type type') (rows : List BillboardRecord) :
    List.Forall₂ (Renames lead) (rows.map (billboardRow type)) (rows.map (billboardRow type')) := by
  refine Renames.map_lines rows fun r _ => call_renames htype fun a ha => ?_
  simp only [List.mem_cons, List.not_mem_nil, or_false] at ha
  rcases ha with rfl | rfl | rfl
  · exact digits_are_nameless r.index
  · exact r.width.literal_is_nameless
  · exact r.height.literal_is_nameless

end TableSource

end Lines

section Options

variable {lead : String} (version : UInt32)

theorem ShaderOptions.declared_renames (hlead : IsIdentifier lead) (name : ShaderName) :
    Renames lead (declared ⟨version, ""⟩ name) (declared ⟨version, lead⟩ name) := by
  have hname : name.text ∈ declaredNames := by cases name <;> decide
  simpa [declared, ident] using Renames.name hlead.2 hname

theorem ShaderOptions.version_line_renames :
    Renames lead (versionLine ⟨version, ""⟩) (versionLine ⟨version, lead⟩) := by
  have hdigits : Renames lead (toString version.toNat) (toString version.toNat) :=
    .of_plain (digits_are_nameless version.toNat).plain
  exact hdigits.behind (by decide) (by decide)

namespace TableSource

theorem biome_lines_rename (hlead : IsIdentifier lead) (rows : List BiomeRecord) :
    List.Forall₂ (Renames lead) (biomeLines ⟨version, ""⟩ rows)
      (biomeLines ⟨version, lead⟩ rows) := by
  have hname := ShaderOptions.declared_renames version hlead
  have hrows := biome_rows_rename (hname .biome) rows
  exact table_lines_rename (hname .biome) (hname .biomes) (hname .getBiome) (by decide) hrows
    (by decide) (by decide)

theorem billboard_lines_rename (hlead : IsIdentifier lead) (rows : List BillboardRecord) :
    List.Forall₂ (Renames lead) (billboardLines ⟨version, ""⟩ rows)
      (billboardLines ⟨version, lead⟩ rows) := by
  have hname := ShaderOptions.declared_renames version hlead
  have hrows := billboard_rows_rename (hname .billboard) rows
  exact table_lines_rename (hname .billboard) (hname .billboards) (hname .getBillboard)
    (by decide) hrows (by decide) (by decide)

theorem lines_rename (hlead : IsIdentifier lead) (t : Tables) :
    List.Forall₂ (Renames lead) (lines ⟨version, ""⟩ t) (lines ⟨version, lead⟩ t) := by
  have hblank : Renames lead "" "" := .of_plain (by decide)
  exact .cons (ShaderOptions.version_line_renames version)
    (List.rel_append (biome_lines_rename version hlead t.biomes)
      (.cons hblank (billboard_lines_rename version hlead t.billboards)))

end TableSource

namespace ProgramSource

variable {result name name' : String} {b : Binding}

theorem header_lines_rename (h : b.HasOwnNames) :
    List.Forall₂ (Renames lead) (headerLines ⟨version, ""⟩ b) (headerLines ⟨version, lead⟩ b) := by
  have hsampler : Renames lead b.sampler b.sampler := .of_plain h.1.plain
  have hmatrix : Renames lead b.matrix b.matrix := .of_plain h.2.plain
  refine .cons (ShaderOptions.version_line_renames version) (.cons ?_ (.cons ?_ .nil))
  · exact (hsampler.behind (by decide) (by decide)).before (by decide) (by decide)
  · exact (hmatrix.behind (by decide) (by decide)).before (by decide) (by decide)

theorem signature_renames (hresult : IsPlain result) (hname : Renames lead name name') :
    Renames lead (signature result name) (signature result name') :=
  ((Renames.of_plain hresult).across (by decide) hname).before (by decide) (by decide)

theorem sample_line_renames (h : b.HasOwnNames) :
    Renames lead (sampleLine b) (sampleLine b) := by
  have hsampler : Renames lead b.sampler b.sampler := .of_plain h.1.plain
  have hmatrix : Renames lead b.matrix b.matrix := .of_plain h.2.plain
  exact ((hsampler.behind (by decide) (by decide)).across (by decide) hmatrix).before
    (by decide) (by decide)

theorem condition_is_nameless (bound : Bound) : IsNameless (bound.condition sampleName) := by
  have hsample (relation : String) (x : Single) (h : IsNameless relation) :
      IsNameless (sampleName ++ relation ++ x.literal) :=
    (IsNameless.append (by decide) h).append x.literal_is_nameless
  cases bound with
  | exact v => exact hsample " == " v (by decide)
  | range low high =>
    have hboth := ((hsample " >= " low (by decide)).append (b := " && ") (by decide)).append
      (hsample " <= " high (by decide))
    simpa only [Bound.condition, String.append_assoc] using hboth
  | min low => exact hsample " >= " low (by decide)
  | max high => exact hsample " <= " high (by decide)

theorem arm_line_plain (bound : Bound) (hresult : IsNameless result) :
    IsPlain (armLine bound result) := by
  have hguard : IsNameless ("if (" ++ bound.condition sampleName ++ ") ") :=
    (condition_is_nameless bound).between (by decide) (by decide)
  have hreturn : IsNameless ("return " ++ result ++ ";") := hresult.between (by decide) (by decide)
  exact (IsNameless.append (by decide) (hguard.append hreturn)).plain

theorem body_plain {α : Type} (xs : List α) (bound : α → Bound) (answer : α → String)
    (otherwise : String) (hanswer : ∀ x, IsNameless (answer x))
    (hotherwise : IsNameless otherwise) :
    ∀ line ∈ xs.map (fun x => armLine (bound x) (answer x)) ++ [returnLine otherwise],
      IsPlain line := by
  intro line hline
  rcases List.mem_append.mp hline with hline | hline
  · obtain ⟨x, -, rfl⟩ := List.mem_map.mp hline
    exact arm_line_plain (bound x) (hanswer x)
  · obtain rfl := List.mem_singleton.mp hline
    exact (hotherwise.between (by decide) (by decide)).plain

/-- A function of either kind, whose statements name the sample and no more. -/
theorem function_lines_rename {type : String} {body : List String} (h : b.HasOwnNames)
    (htype : IsPlain type) (hname : Renames lead name name') (hbody : ∀ line ∈ body, IsPlain line) :
    List.Forall₂ (Renames lead)
      (headerLines ⟨version, ""⟩ b ++ signature type name :: sampleLine b :: body ++ ["\x7d"])
      (headerLines ⟨version, lead⟩ b ++
        signature type name' :: sampleLine b :: body ++ ["\x7d"]) := by
  have hlines := List.Forall₂.cons (signature_renames htype hname)
    (.cons (sample_line_renames h) (Renames.plain_lines hbody))
  exact List.rel_append (List.rel_append (header_lines_rename version h) hlines)
    (Renames.plain_lines (by decide))

theorem default_lines_rename {type answer : String} (htype : IsPlain type)
    (hname : Renames lead name name') (hanswer : IsPlain answer) :
    List.Forall₂ (Renames lead) (defaultLines ⟨version, ""⟩ type name answer)
      (defaultLines ⟨version, lead⟩ type name' answer) := by
  have hgap : IsGap " return " := by decide
  have hreturn := (signature_renames htype hname).across hgap (.of_plain hanswer)
  exact .cons (ShaderOptions.version_line_renames version)
    (.cons (hreturn.before (by decide) (by decide)) .nil)

end ProgramSource

open ProgramSource

theorem Tables.source_renames (hlead : IsIdentifier lead) (t : Tables) :
    Renames lead (t.source ⟨version, ""⟩) (t.source ⟨version, lead⟩) :=
  Renames.unlines (TableSource.lines_rename version hlead t)

theorem IndexProgram.source_renames (hlead : IsIdentifier lead)
    (program : IndexProgram) (h : ∀ b ∈ program.binding?, b.HasOwnNames) :
    Renames lead (program.source ⟨version, ""⟩) (program.source ⟨version, lead⟩) := by
  have hname := ShaderOptions.declared_renames version hlead .biomeIndex
  cases program with
  | fallback => exact .unlines (default_lines_rename version (by decide) hname (by decide))
  | lookup b arms =>
    have hbody := body_plain arms Arm.bound (fun arm => toString arm.result) "-1"
      (fun arm => digits_are_nameless arm.result) (by decide)
    exact .unlines (function_lines_rename version (h b rfl) (by decide) hname hbody)

theorem CoverageProgram.source_renames (hlead : IsIdentifier lead)
    (program : CoverageProgram) (h : ∀ b ∈ program.binding?, b.HasOwnNames) :
    Renames lead (program.source ⟨version, ""⟩) (program.source ⟨version, lead⟩) := by
  have hname := ShaderOptions.declared_renames version hlead .coverage
  cases program with
  | fallback => exact .unlines (default_lines_rename version (by decide) hname (by decide))
  | acceptAll b =>
    exact .unlines (List.rel_append (header_lines_rename version (h b rfl))
      (.cons (signature_renames (by decide) hname) (Renames.plain_lines (by decide))))
  | test b bounds =>
    have hbody := body_plain bounds id (fun _ => "true") "false" (fun _ => by decide) (by decide)
    exact .unlines (function_lines_rename version (h b rfl) (by decide) hname hbody)

end Options

theorem RenamesDeclared.of_renames {source : ShaderOptions → String}
    (h : ∀ (version : UInt32) (lead : String), IsIdentifier lead →
      Renames lead (source ⟨version, ""⟩) (source ⟨version, lead⟩)) : RenamesDeclared source := by
  intro version lead hlead
  have hpieces := (h version lead hlead).pieces
  exact ⟨hpieces, by rw [← hpieces, join_cut]⟩

theorem ShowsVersion.of_lines {lines : ShaderOptions → List String}
    (h : ∀ o, lines o = o.versionLine :: (lines ⟨0, o.namePrefix⟩).tail) :
    ShowsVersion fun o => unlines (lines o) := by
  refine ⟨fun lead => unlines (lines ⟨0, lead⟩).tail, fun o => ?_⟩
  have htext := congrArg unlines (h o)
  rwa [unlines_cons] at htext

theorem Tables.source_shows_version (t : Tables) : ShowsVersion t.source :=
  ShowsVersion.of_lines fun _ => rfl

theorem IndexProgram.source_shows_version (program : IndexProgram) :
    ShowsVersion fun o => program.source o := by
  cases program <;> exact .of_lines fun _ => rfl

theorem CoverageProgram.source_shows_version (program : CoverageProgram) :
    ShowsVersion fun o => program.source o := by
  cases program <;> exact .of_lines fun _ => rfl

/-- With a prefix, every declared name has it wherever it stands, and look-alikes such as
parameters, fields, uniforms and numbers are left alone. Another version changes the first
line and no other. -/
theorem options_change_names_and_version :
    (∀ t : Tables, RenamesDeclared t.source ∧ ShowsVersion t.source) ∧
    (∀ program : IndexProgram,
      ((∀ b ∈ program.binding?, b.HasOwnNames) → RenamesDeclared fun o => program.source o) ∧
        ShowsVersion fun o => program.source o) ∧
    ∀ program : CoverageProgram,
      ((∀ b ∈ program.binding?, b.HasOwnNames) → RenamesDeclared fun o => program.source o) ∧
        ShowsVersion fun o => program.source o := by
  refine ⟨fun t => ⟨.of_renames fun version _ hlead => t.source_renames version hlead,
    t.source_shows_version⟩, fun program => ⟨fun h => ?_, program.source_shows_version⟩,
    fun program => ⟨fun h => ?_, program.source_shows_version⟩⟩
  · exact .of_renames fun version _ hlead => program.source_renames version hlead h
  · exact .of_renames fun version _ hlead => program.source_renames version hlead h

/-- Uniforms named like the parameter of an accessor and like a declared name with a
digit behind it. -/
theorem options_change_names_and_version_lookalikes :
    let program := IndexProgram.lookup ⟨"biome", "Biome2"⟩ [⟨.min .one, 3⟩]
    (∀ b ∈ program.binding?, b.HasOwnNames) ∧ IsIdentifier "lc_" ∧
      cut (program.source ⟨450, "lc_"⟩) = (cut (program.source ⟨450, ""⟩)).map (renamed "lc_") ∧
      ∃ rest : String, ∀ version : UInt32,
        program.source ⟨version, "lc_"⟩ =
          "#version " ++ toString version.toNat ++ "\n" ++ rest := by
  have hown : ∀ b ∈ (some ⟨"biome", "Biome2"⟩ : Option Binding), b.HasOwnNames := by
    intro b hb
    obtain rfl := Option.some.inj hb
    exact ⟨by decide, by decide⟩
  have hlead : IsIdentifier "lc_" := by decide
  obtain ⟨hrenames, rest, hrest⟩ := options_change_names_and_version.2.1
    (.lookup ⟨"biome", "Biome2"⟩ [⟨.min .one, 3⟩])
  exact ⟨hown, hlead, (hrenames hown 450 "lc_" hlead).1, rest "lc_",
    fun version => hrest ⟨version, "lc_"⟩⟩

end Groundcover
