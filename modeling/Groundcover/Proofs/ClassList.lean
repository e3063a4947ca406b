import Groundcover.Layer
import Groundcover.Proofs.Text.Pieces

/-!
Lists of classes as their readers see them: text that is cut at every space outside of quotes.
However names are written into such a list, they are read again.
-/

namespace Groundcover

namespace ClassList

open Text

/-- The character at a place separates names: a space with an even number of quotes before it. -/
def separates (text : List Char) (c : Char × Nat) : Bool :=
  c.1 = ' ' ∧ (text.take c.2).count '"' % 2 = 0

/-- Text cut at every separator, with the quotes still in it. -/
def quotedPieces (text : List Char) : List (List Char) :=
  (pieces (separates text) text.zipIdx).map fun piece => piece.map Prod.fst

/-- Text without its quotes. -/
def unquoted (text : List Char) : List Char := text.filter (· ≠ '"')

/-- What stands between separators, from a place inside of a text on. -/
def piecesBehind (front rest : List Char) : List (List Char) :=
  (pieces (separates (front ++ rest)) (rest.zipIdx front.length)).map fun piece =>
    piece.map Prod.fst

theorem quoted_pieces_eq (text : List Char) : quotedPieces text = piecesBehind [] text := rfl

section Pieces

variable {front : List Char} {c : Char}

theorem separates_at (front rest : List Char) (c : Char) :
    separates (front ++ c :: rest) (c, front.length) =
      decide (c = ' ' ∧ front.count '"' % 2 = 0) := by
  simp [separates]

theorem pieces_behind_step (front rest : List Char) (c : Char) :
    (pieces (separates (front ++ c :: rest)) (rest.zipIdx (front.length + 1))).map
      (fun piece => piece.map Prod.fst) = piecesBehind (front ++ [c]) rest := by
  rw [piecesBehind, List.append_assoc, List.length_append, List.length_singleton,
    List.singleton_append]

theorem pieces_behind_cut (rest : List Char) (h : c = ' ' ∧ front.count '"' % 2 = 0) :
    piecesBehind front (c :: rest) = [] :: piecesBehind (front ++ [c]) rest := by
  have hsep := (separates_at front rest c).trans (decide_eq_true h)
  rw [← pieces_behind_step, piecesBehind, List.zipIdx_cons, pieces, hsep, if_pos rfl]
  rfl

theorem pieces_behind_other (rest : List Char) (h : ¬(c = ' ' ∧ front.count '"' % 2 = 0)) :
    ∃ first more, piecesBehind (front ++ [c]) rest = first :: more ∧
      piecesBehind front (c :: rest) = (c :: first) :: more := by
  have hsep := (separates_at front rest c).trans (decide_eq_false h)
  obtain ⟨first, more, hrest, hpieces⟩ := pieces_cons hsep (rest.zipIdx (front.length + 1))
  refine ⟨first.map Prod.fst, more.map fun piece => piece.map Prod.fst, ?_, ?_⟩
  · rw [← pieces_behind_step, hrest]
    rfl
  · rw [piecesBehind, List.zipIdx_cons, hpieces]
    rfl

end Pieces

/-- Quotes are open behind an odd number of them. -/
def isOpen (front : List Char) : Bool := front.count '"' % 2 = 1

theorem is_open_quote (front : List Char) : isOpen (front ++ ['"']) = !isOpen front := by
  simp only [isOpen, List.count_append, List.count_singleton_self, ← decide_not]
  exact decide_eq_decide.mpr (by omega)

theorem is_open_other {c : Char} (h : c ≠ '"') (front : List Char) :
    isOpen (front ++ [c]) = isOpen front := by
  rw [isOpen, isOpen, List.count_append, List.count_singleton, beq_false_of_ne h]
  rfl

theorem is_open_eq_false (front : List Char) :
    isOpen front = false ↔ front.count '"' % 2 = 0 := by
  rw [isOpen, decide_eq_false_iff_not, Nat.mod_two_not_eq_one]

/-- From a place inside of a list on, names are those of the pieces there, the first of which goes
on with the name read so far. -/
theorem names_from_pieces (front rest name : List Char) :
    ∃ first more, piecesBehind front rest = first :: more ∧
      namesFrom (isOpen front) name rest =
        finished (name ++ unquoted first) ++
          more.flatMap fun piece => finished (unquoted piece) := by
  induction rest generalizing front name with
  | nil => exact ⟨[], [], rfl, by simp [namesFrom, unquoted]⟩
  | cons c rest ih =>
    rw [namesFrom]
    by_cases hcut : c = ' ' ∧ front.count '"' % 2 = 0
    · obtain ⟨rfl, heven⟩ := hcut
      have hclosed := (is_open_eq_false front).mpr heven
      obtain ⟨first, more, hpieces, hnames⟩ := ih (front ++ [' ']) []
      refine ⟨[], first :: more, by rw [pieces_behind_cut rest ⟨rfl, heven⟩, hpieces], ?_⟩
      rw [is_open_other (by decide), hclosed] at hnames
      rw [if_neg (by decide), if_pos ⟨rfl, hclosed⟩, hnames]
      simp [unquoted]
    · have hinside : ¬(c = ' ' ∧ isOpen front = false) := by rwa [is_open_eq_false]
      obtain ⟨first, more, hpieces, hall⟩ := pieces_behind_other rest hcut
      refine ⟨c :: first, more, hall, ?_⟩
      by_cases hquote : c = '"'
      · -- A quote stays in its piece and is missing in the name.
        subst hquote
        obtain ⟨_, _, hsame, hnames⟩ := ih (front ++ ['"']) name
        cases hpieces.symm.trans hsame
        rw [if_pos rfl, ← is_open_quote, hnames]
        rfl
      · obtain ⟨_, _, hsame, hnames⟩ := ih (front ++ [c]) (name ++ [c])
        cases hpieces.symm.trans hsame
        rw [is_open_other hquote] at hnames
        rw [if_neg hquote, if_neg hinside, hnames]
        simp [unquoted, hquote]

theorem finished_pieces (names : List (List Char)) :
    names.flatMap finished = names.filter (· ≠ []) := by
  induction names with
  | nil => rfl
  | cons name names ih =>
    rw [List.flatMap_cons, ih, List.filter_cons]
    cases name <;> rfl

/-- The names in a text are its pieces without quotes, less those that are empty then. -/
theorem names_eq (text : String) :
    names text =
      (((quotedPieces text.toList).map unquoted).filter (· ≠ [])).map String.ofList := by
  obtain ⟨first, more, hpieces, hnames⟩ := names_from_pieces [] text.toList []
  have hopen : isOpen [] = false := rfl
  rw [hopen, List.nil_append] at hnames
  rw [names, hnames, quoted_pieces_eq, hpieces, ← finished_pieces, List.flatMap_map,
    List.flatMap_cons]

theorem names_are_clean {text name : String} (h : name ∈ names text) :
    name ≠ "" ∧ '"' ∉ name.toList := by
  rw [names_eq] at h
  obtain ⟨chars, hchars, rfl⟩ := List.mem_map.mp h
  obtain ⟨hpiece, hne⟩ := List.mem_filter.mp hchars
  obtain ⟨piece, -, rfl⟩ := List.mem_map.mp hpiece
  rw [ne_eq, ← String.toList_eq_nil_iff, String.toList_ofList]
  exact ⟨of_decide_eq_true hne, by simp [unquoted]⟩

section Unbalanced

/-- Inside of quotes that are never closed, nothing is cut. -/
theorem pieces_behind_open {front : List Char} (hopen : isOpen front = true) {rest : List Char}
    (h : '"' ∉ rest) : piecesBehind front rest = [rest] := by
  induction rest generalizing front with
  | nil => rfl
  | cons c rest ih =>
    obtain ⟨hc, hrest⟩ := not_or.mp (mt List.mem_cons.mpr h)
    have hinside : ¬(c = ' ' ∧ front.count '"' % 2 = 0) := by
      rw [← is_open_eq_false, hopen]
      simp
    obtain ⟨first, more, hpieces, hall⟩ := pieces_behind_other rest hinside
    rw [ih (by rwa [is_open_other (Ne.symm hc)]) hrest] at hpieces
    cases hpieces
    exact hall

/-- Text that is not cut joins the last piece of the text before it. -/
theorem pieces_behind_append {front : List Char} (text : List Char) {rest : List Char}
    (h : piecesBehind (front ++ text) rest = [rest]) :
    ∃ done last, piecesBehind front text = done ++ [last] ∧
      piecesBehind front (text ++ rest) = done ++ [last ++ rest] := by
  -- What is done may be empty: then the first piece of the text is also its last one.
  induction text generalizing front with
  | nil => exact ⟨[], [], rfl, by rwa [List.append_nil] at h⟩
  | cons c text ih =>
    have hnext : piecesBehind (front ++ [c] ++ text) rest = [rest] := by
      rwa [List.append_assoc]
    obtain ⟨done, last, hshort, hlong⟩ := ih hnext
    by_cases hcut : c = ' ' ∧ front.count '"' % 2 = 0
    · refine ⟨[] :: done, last, ?_, ?_⟩
      · rw [pieces_behind_cut _ hcut, hshort, List.cons_append]
      · rw [List.cons_append, pieces_behind_cut _ hcut, hlong, List.cons_append]
    · obtain ⟨first, more, hfirst, hpieces⟩ := pieces_behind_other text hcut
      obtain ⟨first', more', hfirst', hpieces'⟩ := pieces_behind_other (text ++ rest) hcut
      rw [hshort] at hfirst
      rw [hlong] at hfirst'
      rw [List.cons_append, hpieces, hpieces']
      cases done with
      | nil =>
        cases hfirst
        cases hfirst'
        exact ⟨[], c :: last, rfl, rfl⟩
      | cons piece done =>
        cases hfirst
        cases hfirst'
        exact ⟨(c :: first) :: done, last, rfl, rfl⟩

/-- Behind a quote that is not closed, all is one piece. -/
theorem pieces_unbalanced {front rest : List Char} (heven : front.count '"' % 2 = 0)
    (hrest : '"' ∉ rest) : ∃ done last, quotedPieces front = done ++ [last] ∧
      quotedPieces (front ++ '"' :: rest) = done ++ [last ++ '"' :: rest] := by
  rw [quoted_pieces_eq, quoted_pieces_eq]
  apply pieces_behind_append
  have hopen : isOpen (front ++ ['"']) = true := by
    rw [is_open_quote, (is_open_eq_false front).mpr heven]
    rfl
  have hquote : ¬('"' = ' ' ∧ front.count '"' % 2 = 0) := by simp
  obtain ⟨first, more, hpieces, hall⟩ := pieces_behind_other rest hquote
  rw [pieces_behind_open hopen hrest] at hpieces
  cases hpieces
  exact hall

end Unbalanced

/-- A name as it is written into a list: with or without quotes, and spaces behind it. -/
structure WrittenName where
  name : String
  quoted : Bool
  gap : Nat

namespace WrittenName

/-- A name can be written if it is not empty and has no quote in it; with spaces it needs quotes. -/
def IsWritable (w : WrittenName) : Prop :=
  w.name ≠ "" ∧ '"' ∉ w.name.toList ∧ (w.quoted = false → ' ' ∉ w.name.toList)

def form (w : WrittenName) : List Char :=
  if w.quoted then '"' :: w.name.toList ++ ['"'] else w.name.toList

def chars (w : WrittenName) : List Char := w.form ++ List.replicate w.gap ' '

end WrittenName

/-- Names one after the other, behind some spaces. -/
def written (lead : Nat) (ws : List WrittenName) : String :=
  String.ofList (List.replicate lead ' ' ++ ws.flatMap WrittenName.chars)

/-- Names in quotes, with a space between any two. -/
def requoted (names : List String) : String :=
  " ".intercalate (names.map fun name => "\"" ++ name ++ "\"")

section Written

theorem names_from_space (name rest : List Char) :
    namesFrom false name (' ' :: rest) = finished name ++ namesFrom false [] rest := by
  rw [namesFrom, if_neg (by decide), if_pos ⟨rfl, rfl⟩]

theorem names_from_spaces (n : Nat) (rest : List Char) :
    namesFrom false [] (List.replicate n ' ' ++ rest) = namesFrom false [] rest := by
  induction n with
  | zero => rfl
  | succ n ih =>
    rw [List.replicate_succ, List.cons_append, names_from_space, ih]
    rfl

/-- Characters that neither quote nor separate go on with the name. -/
theorem names_from_plain (isQuoted : Bool) (name : List Char) {text : List Char} (rest : List Char)
    (hquotes : '"' ∉ text) (hspaces : isQuoted = false → ' ' ∉ text) :
    namesFrom isQuoted name (text ++ rest) = namesFrom isQuoted (name ++ text) rest := by
  induction text generalizing name with
  | nil => rw [List.nil_append, List.append_nil]
  | cons c text ih =>
    obtain ⟨hc, htext⟩ := not_or.mp (mt List.mem_cons.mpr hquotes)
    have hinside : ¬(c = ' ' ∧ isQuoted = false) := by
      rintro ⟨rfl, hfalse⟩
      exact hspaces hfalse List.mem_cons_self
    rw [List.cons_append, namesFrom, if_neg (Ne.symm hc), if_neg hinside,
      ih _ htext fun hfalse => mt (List.mem_cons_of_mem c) (hspaces hfalse), List.append_assoc,
      List.singleton_append]

/-- With quotes or without, what is read is the name. -/
theorem names_from_form {w : WrittenName} (h : w.IsWritable) (rest : List Char) :
    namesFrom false [] (w.form ++ rest) = namesFrom false w.name.toList rest := by
  obtain ⟨-, hquotes, hspaces⟩ := h
  unfold WrittenName.form
  cases hquoted : w.quoted with
  | true =>
    have hopened : namesFrom false [] ('"' :: (w.name.toList ++ '"' :: rest)) =
        namesFrom true [] (w.name.toList ++ '"' :: rest) := by
      rw [namesFrom, if_pos rfl]
      rfl
    rw [if_pos rfl, List.append_assoc, List.cons_append, List.singleton_append, hopened,
      names_from_plain true [] _ hquotes nofun, namesFrom, if_pos rfl]
    rfl
  | false =>
    rw [if_neg Bool.false_ne_true, names_from_plain false [] rest hquotes fun _ => hspaces hquoted]
    rfl

theorem finished_name {w : WrittenName} (h : w.IsWritable) :
    finished w.name.toList = [w.name.toList] := by
  have hne : w.name.toList ≠ [] := mt String.toList_eq_nil_iff.mp h.1
  simp [finished, hne]

/-- A name is read as far as the space behind it. -/
theorem names_from_name {w : WrittenName} (h : w.IsWritable) (hgap : 0 < w.gap) (rest : List Char) :
    namesFrom false [] (w.chars ++ rest) = w.name.toList :: namesFrom false [] rest := by
  obtain ⟨n, hn⟩ := Nat.exists_eq_add_of_lt hgap
  rw [Nat.zero_add] at hn
  rw [WrittenName.chars, List.append_assoc, names_from_form h, hn, List.replicate_succ,
    List.cons_append, names_from_space, names_from_spaces, finished_name h]
  rfl

theorem names_from_last {w : WrittenName} (h : w.IsWritable) :
    namesFrom false [] w.chars = [w.name.toList] := by
  cases hgap : w.gap with
  | zero =>
    rw [WrittenName.chars, names_from_form h, hgap]
    exact finished_name h
  | succ n =>
    have hread := names_from_name h (by omega) []
    rwa [List.append_nil] at hread

theorem names_from_written {ws : List WrittenName} (h : ∀ w ∈ ws, w.IsWritable)
    (hgaps : ∀ w ∈ ws.dropLast, 0 < w.gap) :
    namesFrom false [] (ws.flatMap WrittenName.chars) = ws.map fun w => w.name.toList := by
  induction ws with
  | nil => rfl
  | cons w ws ih =>
    obtain ⟨hw, hws⟩ := List.forall_mem_cons.mp h
    cases ws with
    | nil => simpa using names_from_last hw
    | cons next ws =>
      rw [List.dropLast_cons_cons] at hgaps
      obtain ⟨hgap, hgaps⟩ := List.forall_mem_cons.mp hgaps
      rw [List.flatMap_cons, names_from_name hw hgap, ih hws hgaps]
      rfl

theorem names_written (lead : Nat) {ws : List WrittenName} (h : ∀ w ∈ ws, w.IsWritable)
    (hgaps : ∀ w ∈ ws.dropLast, 0 < w.gap) :
    names (written lead ws) = ws.map WrittenName.name := by
  rw [names, written, String.toList_ofList, names_from_spaces, names_from_written h hgaps,
    List.map_map]
  refine List.map_congr_left fun w _ => ?_
  exact String.ofList_toList

theorem names_from_requoted {listed : List String}
    (h : ∀ name ∈ listed, name ≠ "" ∧ '"' ∉ name.toList) :
    namesFrom false [] ([' '].intercalate (listed.map fun name => '"' :: name.toList ++ ['"'])) =
      listed.map String.toList := by
  induction listed with
  | nil => rfl
  | cons name rest ih =>
    obtain ⟨hname, hrest⟩ := List.forall_mem_cons.mp h
    have hwritable (gap : Nat) : (WrittenName.mk name true gap).IsWritable :=
      ⟨hname.1, hname.2, nofun⟩
    cases rest with
    | nil =>
      have hlast := names_from_last (hwritable 0)
      rw [WrittenName.chars, List.replicate_zero, List.append_nil] at hlast
      rw [List.map_singleton, List.map_singleton, List.intercalate_singleton]
      exact hlast
    | cons next rest =>
      have hread := names_from_name (hwritable 1) Nat.one_pos
        ([' '].intercalate ((next :: rest).map fun name => '"' :: name.toList ++ ['"']))
      rw [ih hrest] at hread
      rw [List.map_cons, List.map_cons, List.intercalate_cons_cons]
      exact hread

theorem names_requoted {listed : List String}
    (h : ∀ name ∈ listed, name ≠ "" ∧ '"' ∉ name.toList) : names (requoted listed) = listed := by
  have hchars : (requoted listed).toList =
      [' '].intercalate (listed.map fun name => '"' :: name.toList ++ ['"']) := by
    rw [requoted, String.toList_intercalate, List.map_map]
    congr 1
    refine List.map_congr_left fun name _ => ?_
    simp
  rw [names, hchars, names_from_requoted h, List.map_map]
  simp

end Written

end ClassList

/-- The names in a list are what is left of its pieces, cut at each space behind an even
number of quotes, without quotes and without what is empty then; a quote that is not closed
keeps all behind it together. Names that are not empty and hold no quotes can be written in
quotes or, without spaces, as they are, with any number of spaces around, but one at least
between two: they are always read as they were meant. So the names in a list can be written in
quotes and are the same. -/
theorem class_lists_read_as_written :
    (∀ text, ClassList.names text = (((ClassList.quotedPieces text.toList).map
      ClassList.unquoted).filter (· ≠ [])).map String.ofList) ∧
    (∀ text, ∀ name ∈ ClassList.names text, name ≠ "" ∧ '"' ∉ name.toList) ∧
    (∀ front rest : List Char, front.count '"' % 2 = 0 → '"' ∉ rest →
      ∃ done last, ClassList.quotedPieces front = done ++ [last] ∧
        ClassList.quotedPieces (front ++ '"' :: rest) = done ++ [last ++ '"' :: rest]) ∧
    (∀ lead ws, (∀ w ∈ ws, w.IsWritable) → (∀ w ∈ ws.dropLast, 0 < w.gap) →
      ClassList.names (ClassList.written lead ws) = ws.map ClassList.WrittenName.name) ∧
    ∀ text, ClassList.names (ClassList.requoted (ClassList.names text)) = ClassList.names text := by
  refine ⟨ClassList.names_eq, fun _ _ => ClassList.names_are_clean, fun _ _ => ?_, fun lead _ => ?_,
    fun text => ?_⟩
  · exact ClassList.pieces_unbalanced
  · exact ClassList.names_written lead
  · exact ClassList.names_requoted fun _ => ClassList.names_are_clean

/-- A name with a space, one with a tab that is not in quotes, and spaces at both ends. -/
theorem class_lists_read_as_written_spaces :
    let ws : List ClassList.WrittenName :=
      [⟨"mixed wood", true, 2⟩, ⟨"a\tb", false, 1⟩, ⟨"sand", true, 3⟩]
    let front := "sand \"a\" b".toList
    let rest := " c d".toList
    (∀ w ∈ ws, w.IsWritable) ∧ (∀ w ∈ ws.dropLast, 0 < w.gap) ∧
      ClassList.written 1 ws = " \"mixed wood\"  a\tb \"sand\"   " ∧
      ClassList.names (ClassList.written 1 ws) = ["mixed wood", "a\tb", "sand"] ∧
      front.count '"' % 2 = 0 ∧ '"' ∉ rest ∧
      ∃ done last, ClassList.quotedPieces front = done ++ [last] ∧
        ClassList.quotedPieces (front ++ '"' :: rest) = done ++ [last ++ '"' :: rest] := by
  intro ws front rest
  have hwritable : ∀ w ∈ ws, w.IsWritable := by
    unfold ClassList.WrittenName.IsWritable
    decide
  have hgaps : ∀ w ∈ ws.dropLast, 0 < w.gap := by decide
  have heven : front.count '"' % 2 = 0 := by decide
  have hrest : '"' ∉ rest := by decide
  obtain ⟨-, -, hunbalanced, hwritten, -⟩ := class_lists_read_as_written
  exact ⟨hwritable, hgaps, by decide, hwritten 1 ws hwritable hgaps, heven, hrest,
    hunbalanced front rest heven hrest⟩

end Groundcover
