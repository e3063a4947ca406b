import Groundcover.Proofs.Shader.Statements
import Mathlib.Data.List.SplitBy

/-!
The words of source, and what a prefix for declared names does to them. Two texts that differ by
such a prefix are put together from parts that do, as long as no word runs over the edge of a part.
-/

namespace Groundcover

namespace Source

/-- A character that names are made of. -/
def isWordChar (c : Char) : Bool := c.isAlphanum || c == '_'

/-- A text cut into words, each as long as can be, and single other characters. -/
def cut (text : String) : List String :=
  (text.toList.splitBy fun c d => isWordChar c && isWordChar d).map String.ofList

/-- Everything that shaders declare. -/
def declaredNames : List String :=
  ["Biome", "biomes", "getBiome", "Billboard", "billboards", "getBillboard", "getBiomeIndexOf",
    "passesCoverage"]

/-- A piece of a text when every declared name gets a prefix. -/
def renamed (lead piece : String) : String :=
  if piece ∈ declaredNames then lead ++ piece else piece

/-- Letters, digits and underscores of ASCII, at least one and no digit in front. -/
def IsIdentifier (name : String) : Prop :=
  (∃ c ∈ name.toList.head?, c.isDigit = false) ∧ ∀ c ∈ name.toList, isWordChar c = true

def startsWithWord (text : String) : Bool := text.toList.head?.any isWordChar

def endsInWord (text : String) : Bool := text.toList.getLast?.any isWordChar

/-- No word of a text is a declared name. -/
def IsPlain (text : String) : Prop := ∀ piece ∈ cut text, piece ∉ declaredNames

instance (text : String) : Decidable (IsPlain text) :=
  inferInstanceAs (Decidable (∀ piece ∈ cut text, piece ∉ declaredNames))

instance (name : String) : Decidable (IsIdentifier name) :=
  decidable_of_iff ((name.toList.head?.any fun c => !c.isDigit) ∧ name.toList.all isWordChar)
    (by simp [IsIdentifier, Option.any_eq_true])

/-- A name beside the declared ones. -/
def IsOwnName (name : String) : Prop := IsIdentifier name ∧ name ∉ declaredNames

instance (name : String) : Decidable (IsOwnName name) :=
  inferInstanceAs (Decidable (IsIdentifier name ∧ name ∉ declaredNames))

/-- A text that words end in front of and begin behind. -/
structure IsGap (text : String) : Prop where
  plain : IsPlain text
  nonempty : text ≠ ""
  starts : startsWithWord text = false
  ends : endsInWord text = false

instance (text : String) : Decidable (IsGap text) :=
  decidable_of_iff
    (IsPlain text ∧ text ≠ "" ∧ startsWithWord text = false ∧ endsInWord text = false)
    ⟨fun ⟨plain, nonempty, starts, ends⟩ => ⟨plain, nonempty, starts, ends⟩,
      fun h => ⟨h.plain, h.nonempty, h.starts, h.ends⟩⟩

variable {lead a b c d text : String}

theorem join_cut (text : String) : String.join (cut text) = text := by
  apply String.toList_inj.mp
  rw [String.toList_join, cut, List.flatMap_map]
  simp only [String.toList_ofList]
  exact List.flatMap_id.trans (List.flatten_splitBy _ _)

example : cut "int biomes[2];" = ["int", " ", "biomes", "[", "2", "]", ";"] := by decide

theorem cut_eq_nil : cut text = [] ↔ text = "" := by
  simp [cut, List.splitBy_eq_nil]

theorem cut_append (h : (endsInWord a && startsWithWord b) = false) :
    cut (a ++ b) = cut a ++ cut b := by
  rw [cut, String.toList_append, List.splitBy_append, List.map_append]
  · rfl
  · intro x hx y hy
    rw [Option.mem_def] at hx hy
    simpa [endsInWord, startsWithWord, hx, hy] using h

theorem cut_word (hne : text ≠ "") (hword : ∀ c ∈ text.toList, isWordChar c = true) :
    cut text = [text] := by
  have hchain : text.toList.IsChain fun c d => (isWordChar c && isWordChar d) = true :=
    (List.pairwise_of_forall_mem_list fun c hc d hd => by simp [hword c hc, hword d hd]).isChain
  rw [cut, List.splitBy_of_isChain (by simpa using hne) hchain, List.map_singleton,
    String.ofList_toList]

theorem cut_identifier (h : IsIdentifier text) : cut text = [text] := by
  obtain ⟨⟨c, hc, -⟩, hword⟩ := h
  exact cut_word (by rintro rfl; cases hc) hword

theorem IsOwnName.plain (h : IsOwnName text) : IsPlain text := by
  intro piece hpiece
  rw [cut_identifier h.1, List.mem_singleton] at hpiece
  exact hpiece ▸ h.2

theorem word_edges (hne : text ≠ "") (hword : ∀ c ∈ text.toList, isWordChar c = true) :
    startsWithWord text = true ∧ endsInWord text = true := by
  have hlist : text.toList ≠ [] := by simpa using hne
  refine ⟨(Option.any_eq_true _ _).mpr
      ⟨_, List.head?_eq_some_head hlist, hword _ (List.head_mem hlist)⟩,
    (Option.any_eq_true _ _).mpr ⟨_, List.getLast?_eq_some_getLast hlist, ?_⟩⟩
  exact hword _ (List.getLast_mem hlist)

theorem starts_append :
    startsWithWord (a ++ b) = if a = "" then startsWithWord b else startsWithWord a := by
  rw [startsWithWord, String.toList_append, List.head?_append]
  cases h : a.toList with
  | nil =>
    obtain rfl := String.toList_eq_nil_iff.mp h
    rfl
  | cons x rest =>
    rw [if_neg (by rintro rfl; cases h)]
    simp [startsWithWord, h]

theorem starts_between (h : a ≠ "") : startsWithWord (a ++ text ++ b) = startsWithWord a := by
  rw [String.append_assoc, starts_append, if_neg h]

theorem ends_append :
    endsInWord (a ++ b) = if b = "" then endsInWord a else endsInWord b := by
  rw [endsInWord, String.toList_append, List.getLast?_append]
  cases h : b.toList.getLast? with
  | none =>
    obtain rfl := String.toList_eq_nil_iff.mp (List.getLast?_eq_none_iff.mp h)
    rfl
  | some x =>
    rw [if_neg (by rintro rfl; cases h)]
    simp [endsInWord, h]

/-- A text without an o. Every declared name has one in it, and no number has. -/
def IsNameless (text : String) : Prop := 'o' ∉ text.toList

instance (text : String) : Decidable (IsNameless text) := inferInstanceAs (Decidable ('o' ∉ _))

theorem IsNameless.append (h : IsNameless a) (h' : IsNameless b) : IsNameless (a ++ b) := by
  rw [IsNameless, String.toList_append, List.mem_append]
  exact fun ho => ho.elim h h'

theorem IsNameless.between (h : IsNameless text) (ha : IsNameless a) (hb : IsNameless b) :
    IsNameless (a ++ text ++ b) := (ha.append h).append hb

theorem IsNameless.intercalate (h : IsNameless text) {parts : List String}
    (hparts : ∀ part ∈ parts, IsNameless part) : IsNameless (text.intercalate parts) := by
  induction parts with
  | nil =>
    rw [String.intercalate_nil]
    decide
  | cons first rest ih =>
    have hfirst := hparts first (List.mem_cons_self ..)
    have hrest := ih fun part hpart => hparts part (List.mem_cons_of_mem _ hpart)
    cases rest with
    | nil => rwa [String.intercalate_singleton]
    | cons second rest =>
      rw [String.intercalate_cons_cons]
      exact (hfirst.append h).append hrest

theorem IsNameless.plain (h : IsNameless text) : IsPlain text := by
  intro piece hpiece hdeclared
  have ho : ∀ name ∈ declaredNames, 'o' ∈ name.toList := by decide
  rw [IsNameless, ← join_cut text, String.toList_join] at h
  exact h (List.mem_flatMap.mpr ⟨piece, hpiece, ho piece hdeclared⟩)

theorem unlines_cons (line : String) (rest : List String) :
    unlines (line :: rest) = line ++ "\n" ++ unlines rest := by
  rw [← String.toList_inj]
  simp [unlines_text]

/-- One text is another with a prefix in front of its declared names. Words begin and end both or
neither. -/
structure Renames (lead plain text : String) : Prop where
  pieces : cut text = (cut plain).map (renamed lead)
  starts : startsWithWord text = startsWithWord plain
  ends : endsInWord text = endsInWord plain

namespace Renames

theorem of_plain (h : IsPlain text) : Renames lead text text := by
  refine ⟨?_, rfl, rfl⟩
  conv => lhs; rw [← List.map_id (cut text)]
  exact List.map_congr_left fun piece hpiece => (if_neg (h piece hpiece)).symm

theorem eq_empty_iff (h : Renames lead a b) : b = "" ↔ a = "" := by
  rw [← cut_eq_nil, ← cut_eq_nil, h.pieces, List.map_eq_nil_iff]

/-- Where no word runs over the edge, two parts make a whole. -/
theorem append (h : Renames lead a b) (h' : Renames lead c d)
    (hedge : (endsInWord a && startsWithWord c) = false) : Renames lead (a ++ c) (b ++ d) := by
  have hedge' : (endsInWord b && startsWithWord d) = false := by rwa [h.ends, h'.starts]
  refine ⟨?_, ?_, ?_⟩
  · rw [cut_append hedge, cut_append hedge', h.pieces, h'.pieces, List.map_append]
  · simp only [starts_append, h.eq_empty_iff, h.starts, h'.starts]
  · simp only [ends_append, h'.eq_empty_iff, h.ends, h'.ends]

theorem behind (h : Renames lead a b) (hplain : IsPlain text) (hends : endsInWord text = false) :
    Renames lead (text ++ a) (text ++ b) := (of_plain hplain).append h (by simp [hends])

theorem before (h : Renames lead a b) (hplain : IsPlain text)
    (hstarts : startsWithWord text = false) :
    Renames lead (a ++ text) (b ++ text) := h.append (of_plain hplain) (by simp [hstarts])

theorem across (h : Renames lead a b) (hgap : IsGap text) (h' : Renames lead c d) :
    Renames lead (a ++ text ++ c) (b ++ text ++ d) := by
  refine (h.before hgap.plain hgap.starts).append h' ?_
  simp [ends_append, hgap.nonempty, hgap.ends]

/-- A declared name gets the prefix, if the two make one word. -/
theorem name (hlead : ∀ c ∈ lead.toList, isWordChar c = true) (h : text ∈ declaredNames) :
    Renames lead text (lead ++ text) := by
  have hnames : ∀ name ∈ declaredNames, name ≠ "" ∧ name.toList.all isWordChar = true := by decide
  obtain ⟨hne, hall⟩ := hnames text h
  have hword : ∀ c ∈ text.toList, isWordChar c = true := List.all_eq_true.mp hall
  have hwhole : ∀ c ∈ (lead ++ text).toList, isWordChar c = true := by
    intro c hc
    rw [String.toList_append, List.mem_append] at hc
    exact hc.elim (hlead c) (hword c)
  have hwholene : lead ++ text ≠ "" := by simp [hne]
  obtain ⟨hstarts, hends⟩ := word_edges hne hword
  obtain ⟨hstarts', hends'⟩ := word_edges hwholene hwhole
  refine ⟨?_, hstarts'.trans hstarts.symm, hends'.trans hends.symm⟩
  rw [cut_word hne hword, cut_word hwholene hwhole, List.map_singleton, renamed, if_pos h]

/-- Lines that are renamed one by one are renamed as a text. -/
theorem unlines {plain lines : List String} (h : List.Forall₂ (Renames lead) plain lines) :
    Renames lead (unlines plain) (unlines lines) := by
  induction h with
  | nil => exact of_plain (by decide)
  | @cons a b front back hline hlines ih =>
    rw [unlines_cons, unlines_cons]
    exact hline.across (by decide) ih

/-- Lines made from the same things are renamed if each is. -/
theorem map_lines {α : Type} {f g : α → String} (xs : List α)
    (h : ∀ x ∈ xs, Renames lead (f x) (g x)) :
    List.Forall₂ (Renames lead) (xs.map f) (xs.map g) :=
  List.forall₂_map_left_iff.mpr (List.forall₂_map_right_iff.mpr (List.forall₂_same.mpr h))

theorem plain_lines {lines : List String} (h : ∀ line ∈ lines, IsPlain line) :
    List.Forall₂ (Renames lead) lines lines :=
  List.forall₂_same.mpr fun line hline => of_plain (h line hline)

end Renames

end Source

end Groundcover
