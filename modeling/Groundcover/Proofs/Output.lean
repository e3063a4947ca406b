import Groundcover.Output
import Groundcover.Proofs.Path
import Mathlib.Data.List.Nodup
import Mathlib.Data.List.Range

/-!
Output files have names of their own. The stems of layers are made different from each other, and a
name falls apart into its stem and what kind of file it is in one way only. No name leads anywhere
but into the directory that it is joined with.
-/

namespace Groundcover

theorem to_string_injective {n k : Nat} (h : toString n = toString k) : n = k := by
  have hdigits : Nat.toDigits 10 n = Nat.toDigits 10 k := by
    simpa [Nat.toString_eq_ofList_toDigits] using congrArg String.toList h
  have hvalue := congrArg (fun digits => Nat.ofDigitChars 10 digits 0) hdigits
  simpa only [Nat.ofDigitChars_ten_toDigits] using hvalue

namespace Output

section Stems

variable {taken : List String} {stem : String}

theorem numbered_injective {n k : Nat} (h : numbered stem n = numbered stem k) : n = k := by
  simp only [numbered, String.append_right_inj] at h
  exact to_string_injective h

/-- The search passes over taken names only, and stops at the first free one or at its limit. -/
theorem first_free_spec (taken : List String) (stem : String) (n attempts : Nat) :
    ∃ k, n ≤ k ∧ k ≤ n + attempts ∧ firstFree taken stem n attempts = numbered stem k ∧
      (∀ i, n ≤ i → i < k → numbered stem i ∈ taken) ∧
      (k < n + attempts → numbered stem k ∉ taken) := by
  induction attempts generalizing n with
  | zero => exact ⟨n, Nat.le_refl n, Nat.le_refl n, rfl, fun i h h' => by omega, fun h => by omega⟩
  | succ attempts ih =>
    by_cases hn : numbered stem n ∈ taken
    · obtain ⟨k, hlow, hhigh, hfound, hpassed, hfree⟩ := ih (n + 1)
      refine ⟨k, by omega, by omega, by rw [firstFree, if_pos hn, hfound], fun i hi hk => ?_,
        fun hk => hfree (by omega)⟩
      rcases Nat.eq_or_lt_of_le hi with rfl | hi
      · exact hn
      · exact hpassed i hi hk
    · exact ⟨n, Nat.le_refl n, by omega, by rw [firstFree, if_neg hn], fun i h h' => by omega,
        fun _ => hn⟩

/-- More numbered names than are taken cannot all be taken. -/
theorem numbered_taken_lt {n k : Nat} (h : ∀ i, n ≤ i → i < k → numbered stem i ∈ taken) :
    k ≤ n + taken.length := by
  have hdistinct : ((List.range' n (k - n)).map (numbered stem)).Nodup :=
    List.Nodup.map (fun _ _ => numbered_injective) (List.nodup_range' (s := n))
  have hsub : (List.range' n (k - n)).map (numbered stem) ⊆ taken := by
    intro name hname
    obtain ⟨i, hi, rfl⟩ := List.mem_map.mp hname
    have hrange := List.mem_range'_1.mp hi
    exact h i hrange.1 (by omega)
  have hlength := hdistinct.length_le_of_subset hsub
  simp only [List.length_map, List.length_range'] at hlength
  omega

/-- A free stem keeps its name, and one that is taken gets the smallest number that is not. -/
theorem free_stem_spec (taken : List String) (stem : String) :
    (stem ∉ taken ∧ freeStem taken stem = stem) ∨
    (stem ∈ taken ∧ ∃ n, 2 ≤ n ∧ freeStem taken stem = numbered stem n ∧ numbered stem n ∉ taken ∧
      ∀ k, 2 ≤ k → k < n → numbered stem k ∈ taken) := by
  by_cases hstem : stem ∈ taken
  · right
    obtain ⟨n, hlow, hhigh, hfound, hpassed, hfree⟩ := first_free_spec taken stem 2 taken.length
    refine ⟨hstem, n, hlow, by rw [freeStem, if_pos hstem, hfound], fun hn => ?_, hpassed⟩
    -- If the last name that was tried were taken as well, more names would be taken than there are.
    have hbound : n + 1 ≤ 2 + taken.length := numbered_taken_lt fun i hi hk => by
      rcases Nat.eq_or_lt_of_le (Nat.le_of_lt_succ hk) with rfl | hk
      · exact hn
      · exact hpassed i hi hk
    exact hfree (by omega) hn
  · exact .inl ⟨hstem, by rw [freeStem, if_neg hstem]⟩

theorem free_stem_fresh (taken : List String) (stem : String) : freeStem taken stem ∉ taken := by
  rcases free_stem_spec taken stem with ⟨hfree, heq⟩ | ⟨-, n, -, heq, hfree, -⟩
  · rwa [heq]
  · rwa [heq]

/-- A character of a file's name. -/
def IsNameChar (c : Char) : Prop := c.isAlphanum = true ∨ c = '-' ∨ c = '_' ∨ c = '.'

instance (c : Char) : Decidable (IsNameChar c) := inferInstanceAs (Decidable (_ ∨ _))

theorem name_chars_of_all {text : String}
    (h : (text.toList.all fun c => decide (IsNameChar c)) = true) :
    ∀ c ∈ text.toList, IsNameChar c :=
  fun c hc => of_decide_eq_true (List.all_eq_true.mp h c hc)

theorem alphanumeric_is_ascii {c : Char} (h : c.isAlphanum = true) : c.toNat < 128 := by
  have hupto (last : Char) (hlast : last.toNat < 128) (hle : c.val ≤ last.val) : c.toNat < 128 :=
    Nat.lt_of_le_of_lt (UInt32.le_iff_toNat_le.mp hle) hlast
  rcases Bool.or_eq_true_iff.mp h with hletter | hdigit
  · rcases Bool.or_eq_true_iff.mp hletter with hupper | hlower
    · exact hupto 'Z' (by decide) (of_decide_eq_true hupper).2
    · exact hupto 'z' (by decide) (of_decide_eq_true (Bool.and_eq_true_iff.mp hlower).2)
  · exact hupto '9' (by decide) (of_decide_eq_true (Bool.and_eq_true_iff.mp hdigit).2)

/-- A name's character is a byte of its own, and no slash. -/
theorem IsNameChar.ascii {c : Char} (h : IsNameChar c) : c.toNat < 128 ∧ c ≠ '/' := by
  rcases h with h | rfl | rfl | rfl
  · refine ⟨alphanumeric_is_ascii h, ?_⟩
    rintro rfl
    exact absurd h (by decide)
  · decide
  · decide
  · decide

/-- Letters, digits, hyphens and underscores of ASCII, at least one. -/
def IsStem (stem : String) : Prop :=
  stem ≠ "" ∧ ∀ c ∈ stem.toList, c.isAlphanum = true ∨ c = '-' ∨ c = '_'

theorem digits_are_alphanumeric (n : Nat) : ∀ c ∈ (toString n).toList, c.isAlphanum = true := by
  intro c hc
  rw [Nat.toString_eq_ofList_toDigits, String.toList_ofList] at hc
  simp [Char.isAlphanum, Nat.isDigit_of_mem_toDigits (by decide) (by decide) hc]

theorem stem_is_stem (layer : String) (position : Nat) : IsStem (Output.stem layer position) := by
  rw [Output.stem]
  split
  · refine ⟨by simp [← String.toList_inj], fun c hc => ?_⟩
    simp only [String.toList_append, List.mem_append] at hc
    rcases hc with hc | hc
    · have hletters : "layer".toList.all Char.isAlphanum = true := by decide
      exact .inl (List.all_eq_true.mp hletters c hc)
    · exact .inl (digits_are_alphanumeric position c hc)
  · rename_i hne
    refine ⟨fun h => hne ?_, fun c hc => ?_⟩
    · have hlist := congrArg String.toList h
      rw [String.toList_ofList] at hlist
      rw [hlist]
      rfl
    · rw [String.toList_ofList] at hc
      obtain ⟨original, -, rfl⟩ := List.mem_map.mp hc
      unfold stemChar
      split
      · rename_i hkept
        rcases Bool.or_eq_true_iff.mp hkept with hkept | hkept
        · exact .inl hkept
        · exact .inr (.inl (by simpa using hkept))
      · exact .inr (.inr rfl)

theorem IsStem.numbered (h : IsStem stem) (n : Nat) : IsStem (numbered stem n) := by
  refine ⟨by simp [Output.numbered], fun c hc => ?_⟩
  simp only [Output.numbered, String.toList_append, List.mem_append] at hc
  rcases hc with (hc | hc) | hc
  · exact h.2 c hc
  · exact .inr (.inl (by simpa using hc))
  · exact .inl (digits_are_alphanumeric n c hc)

theorem IsStem.free (h : IsStem stem) (taken : List String) : IsStem (freeStem taken stem) := by
  rcases free_stem_spec taken stem with ⟨-, heq⟩ | ⟨-, n, -, heq, -, -⟩
  · rwa [heq]
  · exact heq ▸ h.numbered n

/-- The stems of layers are different from each other and from those taken before. -/
theorem stems_from_spec (layers : List String) (taken : List String) (position : Nat) :
    (stemsFrom taken position layers).length = layers.length ∧
      (stemsFrom taken position layers).Nodup ∧
      ∀ stem ∈ stemsFrom taken position layers, IsStem stem ∧ stem ∉ taken := by
  induction layers generalizing taken position with
  | nil => exact ⟨rfl, List.nodup_nil, nofun⟩
  | cons layer rest ih =>
    obtain ⟨hlength, hdistinct, hrest⟩ := ih (freeStem taken (Output.stem layer position) :: taken)
      (position + 1)
    rw [stemsFrom]
    refine ⟨by rw [List.length_cons, hlength, List.length_cons], ?_, ?_⟩
    · refine List.nodup_cons.mpr ⟨fun hmem => ?_, hdistinct⟩
      exact (hrest _ hmem).2 List.mem_cons_self
    · refine List.forall_mem_cons.mpr ⟨⟨(stem_is_stem layer position).free taken,
        free_stem_fresh taken _⟩, fun other hother => ?_⟩
      obtain ⟨hstem, hfresh⟩ := hrest other hother
      exact ⟨hstem, fun hmem => hfresh (List.mem_cons_of_mem _ hmem)⟩

/-- A name that looks like a numbered stem comes after the stem that was numbered so. -/
example : stems ["a b", "a/b", "a_b-2", " "] = ["a_b", "a_b-2", "a_b-2-2", "layer3"] := by
  decide +kernel

end Stems

/-- What a file of a layer holds. -/
inductive FileKind
  | tables
  | index
  | coverage (biome : Nat)

namespace FileKind

/-- The end of a file's name. -/
def suffix : FileKind → String
  | tables => ".tables.glsl"
  | index => ".biome_index.glsl"
  | coverage biome => ".biome" ++ toString biome ++ ".coverage.glsl"

/-- What there is for a layer with some number of biomes, in order. -/
def ofLayer (biomes : Nat) : List FileKind := tables :: index :: (List.range biomes).map coverage

theorem of_layer_distinct (biomes : Nat) : (ofLayer biomes).Nodup := by
  have hcoverage : ((List.range biomes).map coverage).Nodup :=
    List.nodup_range.map fun _ _ => coverage.inj
  simp [ofLayer, hcoverage]

/-- The suffix of a biome's file goes on with a digit where that of the index has an underscore. -/
theorem index_suffix_ne (biome : Nat) : index.suffix ≠ (coverage biome).suffix := by
  intro h
  have hindex : index.suffix = ".biome" ++ "_index.glsl" := rfl
  rw [hindex, suffix, String.append_assoc, String.append_right_inj] at h
  have hrest := congrArg String.toList h
  rw [String.toList_append] at hrest
  have hdigits := digits_are_alphanumeric biome
  cases hlist : (toString biome).toList with
  | nil =>
    rw [hlist] at hrest
    exact absurd hrest (by decide)
  | cons digit digits =>
    rw [hlist] at hrest hdigits
    have hdigit : '_' = digit := by simpa using congrArg List.head? hrest
    exact absurd (hdigits digit List.mem_cons_self) (by rw [← hdigit]; decide)

theorem tables_suffix_ne (biome : Nat) : tables.suffix ≠ (coverage biome).suffix := by
  intro h
  have hsecond := congrArg (fun name => name.toList[1]?) h
  simp [suffix] at hsecond

theorem suffix_injective {kind other : FileKind} (h : kind.suffix = other.suffix) :
    kind = other := by
  cases kind with
  | tables =>
    cases other with
    | tables => rfl
    | index => exact absurd h (by decide)
    | coverage biome => exact absurd h (tables_suffix_ne biome)
  | index =>
    cases other with
    | tables => exact absurd h (by decide)
    | index => rfl
    | coverage biome => exact absurd h (index_suffix_ne biome)
  | coverage biome =>
    cases other with
    | tables => exact absurd h.symm (tables_suffix_ne biome)
    | index => exact absurd h.symm (index_suffix_ne biome)
    | coverage other =>
      simp only [suffix, String.append_left_inj, String.append_right_inj] at h
      rw [to_string_injective h]

theorem suffix_chars (kind : FileKind) : ∀ c ∈ kind.suffix.toList, IsNameChar c := by
  cases kind with
  | tables => exact name_chars_of_all (by decide)
  | index => exact name_chars_of_all (by decide)
  | coverage biome =>
    intro c hc
    simp only [suffix, String.toList_append, List.mem_append] at hc
    rcases hc with (hc | hc) | hc
    · exact name_chars_of_all (by decide) c hc
    · exact .inl (digits_are_alphanumeric biome c hc)
    · exact name_chars_of_all (by decide) c hc

/-- A suffix begins with a dot. -/
theorem suffix_cons (kind : FileKind) : ∃ rest, kind.suffix.toList = '.' :: rest := by
  cases kind with
  | tables => exact ⟨"tables.glsl".toList, by simp [suffix]⟩
  | index => exact ⟨"biome_index.glsl".toList, by simp [suffix]⟩
  | coverage biome =>
    exact ⟨"biome".toList ++ (toString biome).toList ++ ".coverage.glsl".toList, by simp [suffix]⟩

theorem suffix_has_letter (kind : FileKind) : 'l' ∈ kind.suffix.toList := by
  cases kind <;> simp [suffix]

end FileKind

section Names

variable {stem other : String} {kind kind' : FileKind}

/-- The stem of a name ends at its first dot. -/
theorem before_first_dot (hstem : IsStem stem) (kind : FileKind) :
    (stem ++ kind.suffix).toList.takeWhile (· ≠ '.') = stem.toList := by
  have hdotless : ∀ c ∈ stem.toList, decide (c ≠ '.') = true := by
    intro c hc
    rw [decide_eq_true_eq]
    rintro rfl
    exact absurd (hstem.2 '.' hc) (by decide)
  obtain ⟨rest, hrest⟩ := kind.suffix_cons
  rw [String.toList_append, hrest, List.takeWhile_append_of_pos hdotless]
  simp

/-- A name falls apart into its stem and the kind of file in one way only. -/
theorem file_name_injective (hstem : IsStem stem) (hother : IsStem other)
    (h : stem ++ kind.suffix = other ++ kind'.suffix) : stem = other ∧ kind = kind' := by
  have hlist := before_first_dot hstem kind
  rw [h, before_first_dot hother kind'] at hlist
  obtain rfl := String.toList_inj.mp hlist
  exact ⟨rfl, FileKind.suffix_injective ((String.append_right_inj other).mp h)⟩

theorem file_name_chars (hstem : IsStem stem) (kind : FileKind) :
    ∀ c ∈ (stem ++ kind.suffix).toList, IsNameChar c := by
  intro c hc
  rw [String.toList_append, List.mem_append] at hc
  rcases hc with hc | hc
  · rcases hstem.2 c hc with hc | hc | hc
    · exact .inl hc
    · exact .inr (.inl hc)
    · exact .inr (.inr (.inl hc))
  · exact kind.suffix_chars c hc

/-- A file's name leads from a directory right to the file. -/
theorem file_name_is_plain (hstem : IsStem stem) :
    Path.IsPlainName (Path.ofText (stem ++ kind.suffix)).bytes := by
  have hchars := file_name_chars hstem kind
  have hbytes : (Path.ofText (stem ++ kind.suffix)).bytes =
      (stem ++ kind.suffix).toList.map fun c => c.val.toUInt8 :=
    Text.Utf8.encode_ascii fun c hc => (hchars c hc).ascii.1
  have hletter : (108 : UInt8) ∈ (Path.ofText (stem ++ kind.suffix)).bytes := by
    rw [hbytes, List.mem_map]
    exact ⟨'l', by simp [kind.suffix_has_letter], rfl⟩
  refine ⟨fun b hb => ?_, ?_, ?_⟩
  · rw [hbytes] at hb
    obtain ⟨c, hc, rfl⟩ := List.mem_map.mp hb
    obtain ⟨hascii, hslash⟩ := (hchars c hc).ascii
    refine beq_false_of_ne fun hbyte => hslash (Char.toNat_inj.mp ?_)
    have hnat : c.val.toNat % 256 = 47 := congrArg UInt8.toNat hbyte
    have hval : c.toNat = c.val.toNat := rfl
    show c.toNat = 47
    omega
  · rw [Bool.eq_false_iff, Path.isTrivial, ne_eq, Bool.or_eq_true, not_or]
    constructor <;> exact fun h => absurd (eq_of_beq h ▸ hletter) (by decide)
  · exact Bool.eq_false_iff.mpr fun h => absurd (eq_of_beq h ▸ hletter) (by decide)

end Names

section Files

theorem layer_file_names (stem : String) (s : LayerShaders) :
    (layerFiles stem s).map Prod.fst =
      (FileKind.ofLayer s.coverage.length).map fun kind => stem ++ kind.suffix := by
  have hcoverage : s.coverage.zipIdx.map
        (fun x => stem ++ ".biome" ++ toString x.2 ++ ".coverage.glsl") =
      (List.range s.coverage.length).map fun biome => stem ++ (FileKind.coverage biome).suffix := by
    rw [List.range_eq_range', ← List.zipIdx_map_snd 0 s.coverage, List.map_map]
    exact List.map_congr_left fun x _ => by
      simp only [FileKind.suffix, Function.comp_apply, String.append_assoc]
  simpa only [layerFiles, FileKind.ofLayer, List.map_cons, List.map_map, Function.comp_def,
    FileKind.suffix, List.cons.injEq, true_and] using hcoverage

theorem layer_file_shaders (stem : String) (s : LayerShaders) :
    (layerFiles stem s).map Prod.snd = s.all := by
  simp [layerFiles, LayerShaders.all, Function.comp_def]

variable (generated : List LayerShaders)

/-- There is one stem for each layer. -/
theorem stems_zip :
    ((stems (generated.map LayerShaders.layer)).zip generated).map Prod.fst =
      stems (generated.map LayerShaders.layer) ∧
    ((stems (generated.map LayerShaders.layer)).zip generated).map Prod.snd = generated := by
  have hlength := (stems_from_spec (generated.map LayerShaders.layer) [] 0).1
  rw [List.length_map] at hlength
  exact ⟨List.map_fst_zip hlength.le, List.map_snd_zip hlength.ge⟩

/-- Every file's name is a stem and the suffix of its kind. -/
theorem file_has_stem {file : String × Shader} (hfile : file ∈ files generated) :
    ∃ (stem : String) (kind : FileKind), IsStem stem ∧ file.1 = stem ++ kind.suffix := by
  obtain ⟨⟨stem, s⟩, hlayer, hname⟩ := List.mem_flatMap.mp hfile
  have hstem := ((stems_from_spec (generated.map LayerShaders.layer) [] 0).2.2 stem
    (List.of_mem_zip hlayer).1).1
  have hmem := List.mem_map_of_mem (f := Prod.fst) hname
  rw [layer_file_names, List.mem_map] at hmem
  obtain ⟨kind, -, hkind⟩ := hmem
  exact ⟨stem, kind, hstem, hkind.symm⟩

/-- No two files have the same name. -/
theorem file_names_distinct : ((files generated).map Prod.fst).Nodup := by
  obtain ⟨-, hdistinct, hstems⟩ := stems_from_spec (generated.map LayerShaders.layer) [] 0
  have hlayers : ((stems (generated.map LayerShaders.layer)).zip generated).Pairwise
      fun x y => x.1 ≠ y.1 := by
    rw [← List.pairwise_map, (stems_zip generated).1]
    exact hdistinct
  rw [files, List.map_flatMap, List.nodup_flatMap]
  constructor
  · intro ⟨stem, s⟩ _
    rw [layer_file_names]
    exact (FileKind.of_layer_distinct _).map fun _ _ h =>
      FileKind.suffix_injective ((String.append_right_inj stem).mp h)
  · refine hlayers.imp_of_mem fun {x y} hx hy hne => ?_
    obtain ⟨stem, s⟩ := x
    obtain ⟨other, t⟩ := y
    rw [Function.onFun_apply, layer_file_names, layer_file_names]
    intro name hname hname'
    rw [List.mem_map] at hname hname'
    obtain ⟨kind, -, rfl⟩ := hname
    obtain ⟨kind', -, hsame⟩ := hname'
    exact hne (file_name_injective (hstems _ (List.of_mem_zip hx).1).1
      (hstems _ (List.of_mem_zip hy).1).1 hsame.symm).1

/-- The shaders of all layers are written in the order of generation. -/
theorem file_shaders : (files generated).map Prod.snd = generated.flatMap LayerShaders.all := by
  rw [files, List.map_flatMap]
  conv => rhs; rw [← (stems_zip generated).2, List.flatMap_map]
  simp only [layer_file_shaders]

end Files

end Output

end Groundcover
