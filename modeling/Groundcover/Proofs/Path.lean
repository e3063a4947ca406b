import Groundcover.Path
import Groundcover.Proofs.Text.Pieces
import Mathlib.Data.List.TakeWhile

/-!
Where paths lead, read off their names: names that are trivial are passed over, a file below a
directory has one name more than the directory, and a parent one less.
-/

namespace Groundcover

namespace Text

namespace Utf8

theorem encode_eq (text : String) : encode text = text.toList.flatMap String.utf8EncodeChar := by
  conv => lhs; rw [← String.ofList_toList (s := text)]
  simp only [encode, String.toUTF8, String.toByteArray_ofList, List.utf8Encode,
    List.data_toByteArray]

theorem decode_encode (text : String) : decode? (encode text) = some text := by
  have hbytes : (⟨⟨encode text⟩⟩ : ByteArray) = text.toByteArray := rfl
  rw [decode?, hbytes, String.fromUTF8?, dif_pos text.isValidUTF8]
  rfl

theorem encode_of_decode {bytes : List UInt8} {text : String} (h : decode? bytes = some text) :
    encode text = bytes := by
  unfold decode? String.fromUTF8? at h
  split at h
  · cases h
    rfl
  · cases h

theorem encode_injective {first second : String} (h : encode first = encode second) :
    first = second :=
  Option.some.inj ((decode_encode first).symm.trans (h ▸ decode_encode second))

/-- Characters below 128 are bytes. -/
theorem encode_ascii {text : String} (h : ∀ c ∈ text.toList, c.toNat < 128) :
    encode text = text.toList.map fun c => c.val.toUInt8 := by
  rw [encode_eq]
  generalize text.toList = chars at h ⊢
  induction chars with
  | nil => rfl
  | cons c chars ih =>
    obtain ⟨hc, hchars⟩ := List.forall_mem_cons.mp h
    have hval : c.val ≤ 0x7f := by
      rw [UInt32.le_iff_toNat_le]
      exact Nat.le_of_lt_succ hc
    have hsize : c.utf8Size = 1 := by simp [Char.utf8Size, hval]
    rw [List.flatMap_cons, String.utf8EncodeChar_eq_singleton hsize, ih hchars]
    rfl

end Utf8

end Text

namespace Path

open Text

/-- The names of a path that lead somewhere. -/
def steps (p : Path) : List (List UInt8) := p.names.filter fun name => !isTrivial name

/-- The file of one name in a directory: the way to the directory, and then down by that name. -/
structure IsFileIn (p directory : Path) (name : List UInt8) : Prop where
  root : p.isAbsolute = directory.isAbsolute
  steps : p.steps = directory.steps ++ [name]
  down : isUp name = false

/-- A name that stands for itself in a path: it has no slash, and it leads down. -/
structure IsPlainName (name : List UInt8) : Prop where
  slashless : ∀ b ∈ name, (b == slash) = false
  nontrivial : isTrivial name = false
  down : isUp name = false

/-- A name that is given is plain if a look at its bytes says so. -/
theorem IsPlainName.of_bytes {name : List UInt8}
    (hslashless : (name.all fun b => !(b == slash)) = true) (hnontrivial : isTrivial name = false)
    (hdown : isUp name = false) : IsPlainName name :=
  ⟨fun b hb => by simpa using List.all_eq_true.mp hslashless b hb, hnontrivial, hdown⟩

theorem IsPlainName.ne_nil {name : List UInt8} (h : IsPlainName name) : name ≠ [] := by
  rintro rfl
  exact absurd h.nontrivial (by decide)

section Join

variable {file : Path} (h : IsPlainName file.bytes) (directory : Path)
include h

theorem not_absolute : file.isAbsolute = false := by
  obtain ⟨b, rest, hb⟩ := List.exists_cons_of_ne_nil h.ne_nil
  have hslash := h.slashless b (hb ▸ List.mem_cons_self)
  simpa [isAbsolute, hb] using hslash

/-- A name stands behind a directory at once, or behind a slash if the directory ends without. -/
theorem join_bytes :
    (directory.bytes = [] ∧ (directory.join file).bytes = file.bytes) ∨
    (∃ front, directory.bytes = front ++ [slash] ∧
      (directory.join file).bytes = front ++ slash :: file.bytes) ∨
    (directory.bytes ≠ [] ∧
      (directory.join file).bytes = directory.bytes ++ slash :: file.bytes) := by
  rcases List.eq_nil_or_concat directory.bytes with hd | ⟨front, last, hd⟩
  · exact .inl ⟨hd, by simp [join, not_absolute h, hd]⟩
  · by_cases hlast : last = slash
    · subst hlast
      exact .inr (.inl ⟨front, by simpa using hd, by simp [join, not_absolute h, hd]⟩)
    · exact .inr (.inr ⟨by simp [hd], by simp [join, not_absolute h, hd, hlast]⟩)

/-- A directory is joined with a name behind its own names, the last of which may be empty. -/
theorem join_names : ∃ outer, (directory.join file).names = outer ++ [file.bytes] ∧
    (directory.names = outer ∨ directory.names = outer ++ [[]]) := by
  have hname : pieces (· == slash) file.bytes = [file.bytes] := pieces_of_none h.slashless
  rcases join_bytes h directory with ⟨hd, hj⟩ | ⟨front, hd, hj⟩ | ⟨-, hj⟩
  · exact ⟨[], by simp [names, hj, hname], .inr (by simp [names, hd, pieces])⟩
  · refine ⟨pieces (· == slash) front, ?_, .inr ?_⟩
    · simp [names, hj, pieces_append, hname]
    · simp [names, hd, pieces_append, pieces]
  · exact ⟨directory.names, by simp [names, hj, pieces_append, hname], .inl rfl⟩

theorem join_absolute : (directory.join file).isAbsolute = directory.isAbsolute := by
  rcases join_bytes h directory with ⟨hd, hj⟩ | ⟨front, hd, hj⟩ | ⟨hd, hj⟩
  · have hfile := not_absolute h
    simp only [isAbsolute] at hfile ⊢
    simp [hd, hj, hfile]
  · cases front <;> simp [isAbsolute, hd, hj]
  · obtain ⟨b, rest, hb⟩ := List.exists_cons_of_ne_nil hd
    simp [isAbsolute, hj, hb]

/-- A file below a directory is reached by one step more. -/
theorem join_is_file_in : (directory.join file).IsFileIn directory file.bytes := by
  obtain ⟨outer, hjoin, hdirectory⟩ := join_names h directory
  refine ⟨join_absolute h directory, ?_, h.down⟩
  have hstep : [file.bytes].filter (fun name => !isTrivial name) = [file.bytes] := by
    simp [h.nontrivial]
  have hempty : [([] : List UInt8)].filter (fun name => !isTrivial name) = [] := rfl
  rcases hdirectory with hd | hd
  · simp only [steps, hjoin, hd, List.filter_append, hstep]
  · simp only [steps, hjoin, hd, List.filter_append, hstep, hempty, List.append_nil]

end Join

section Parent

variable {p q : Path}

/-- The names behind the head are all the names that lead somewhere, and some that do not. -/
theorem names_behind_head (p : Path) :
    (p.head = [slash] ∧ p.isAbsolute = true ∧
        p.names = [] :: Path.names ⟨p.bytes.drop p.head.length⟩) ∨
    (p.head = [dot] ∧ p.isAbsolute = false ∧ ∃ more,
        p.names = [dot] :: more ∧ Path.names ⟨p.bytes.drop p.head.length⟩ = [] :: more) ∨
    (p.head = [] ∧ p.isAbsolute = false) := by
  obtain ⟨bytes⟩ := p
  cases bytes with
  | nil => exact .inr (.inr ⟨rfl, rfl⟩)
  | cons b rest =>
    by_cases hb : b = slash
    · subst hb
      obtain ⟨first, more, hpieces⟩ :=
        List.exists_cons_of_ne_nil (pieces_ne_nil (p := (· == slash)) rest)
      have hnames : Path.names ⟨slash :: rest⟩ = [] :: first :: more := by
        simp [names, pieces, hpieces]
      have hhead : Path.head ⟨slash :: rest⟩ = [slash] := by simp [head, hnames]
      exact .inl ⟨hhead, rfl, by simp [hhead, hnames]; simp [names, hpieces]⟩
    · have habsolute : Path.isAbsolute ⟨b :: rest⟩ = false := by simpa [isAbsolute] using hb
      obtain ⟨piece, more, hrest, hnames⟩ :=
        pieces_cons (p := (· == slash)) (by simpa using hb) rest
      have hhead : Path.head ⟨b :: rest⟩ = if (b :: piece) == [dot] then b :: piece else [] := by
        simp [head, names, hnames]
      by_cases hdot : (b :: piece) = [dot]
      · have hhead' : Path.head ⟨b :: rest⟩ = [dot] := by simp [hhead, hdot]
        refine .inr (.inl ⟨hhead', habsolute, more, by simp [names, hnames, hdot], ?_⟩)
        obtain ⟨-, rfl⟩ := List.cons_eq_cons.mp hdot
        simp [hhead', names, hrest]
      · exact .inr (.inr ⟨by rw [hhead, if_neg (by simpa using hdot)], habsolute⟩)

theorem steps_behind_head (p : Path) :
    p.steps = (Path.names ⟨p.bytes.drop p.head.length⟩).filter fun name => !isTrivial name := by
  have hempty : isTrivial [] = true := rfl
  have hdot : isTrivial [dot] = true := rfl
  rcases names_behind_head p with ⟨-, -, hnames⟩ | ⟨-, -, more, hnames, hbehind⟩ | ⟨hhead, -⟩
  · simp [steps, hnames, hempty]
  · simp [steps, hnames, hbehind, hempty, hdot]
  · simp [steps, hhead]

/-- Behind the head, the names that are kept for the parent stand first and the last name that leads
somewhere follows; all others are trivial. -/
theorem names_of_reversed {last : List UInt8} {outer : List (List UInt8)}
    (h : p.reversedNames = last :: outer) :
    ∃ between behind, Path.names ⟨p.bytes.drop p.head.length⟩ =
        (outer.dropWhile isTrivial).reverse ++ between ++ last :: behind ∧
      (∀ name ∈ between, isTrivial name = true) ∧ isTrivial last = false ∧
      ∀ name ∈ behind, isTrivial name = true := by
  let behind := ((Path.names ⟨p.bytes.drop p.head.length⟩).reverse.takeWhile isTrivial).reverse
  let between := (outer.takeWhile isTrivial).reverse
  refine ⟨between, behind, ?_, ?_, ?_, ?_⟩
  · have hall := List.takeWhile_append_dropWhile (p := isTrivial)
      (l := (Path.names ⟨p.bytes.drop p.head.length⟩).reverse)
    have houter := congrArg List.reverse
      (List.takeWhile_append_dropWhile (p := isTrivial) (l := outer))
    rw [reversedNames] at h
    rw [h] at hall
    have hnames := congrArg List.reverse hall
    rw [List.reverse_append, List.reverse_reverse, List.reverse_cons, ← houter] at hnames
    rw [← hnames]
    simp only [between, behind, List.reverse_append, List.append_assoc, List.singleton_append]
  · intro name hname
    exact List.mem_takeWhile_imp (List.mem_reverse.mp hname)
  · have hhead :=
      List.head?_dropWhile_not isTrivial (Path.names ⟨p.bytes.drop p.head.length⟩).reverse
    rw [← reversedNames, h] at hhead
    simpa using hhead
  · intro name hname
    exact List.mem_takeWhile_imp (List.mem_reverse.mp hname)

/-- Only the root has an empty name before others. -/
theorem first_of_headless {first next : List UInt8} {more : List (List UInt8)} (hhead : p.head = [])
    (hnames : p.names = first :: next :: more) : first ≠ [] := by
  rintro rfl
  have hslash : p.head = [slash] := by simp [head, hnames]
  rw [hhead] at hslash
  cases hslash

theorem not_absolute_of_first {first : List UInt8} {more : List (List UInt8)}
    (hnames : p.names = first :: more) (hfirst : first ≠ []) : p.isAbsolute = false := by
  obtain ⟨bytes⟩ := p
  cases bytes with
  | nil => rfl
  | cons b rest =>
    by_cases hb : b = slash
    · simp only [names, hb, pieces, beq_self_eq_true, if_true] at hnames
      exact absurd (List.cons_eq_cons.mp hnames).1.symm hfirst
    · simpa [isAbsolute] using hb

/-- Put behind the head again, the first of some names lead where they led in the path. -/
theorem kept_behind_head {kept more : List (List UInt8)} (hmore : more ≠ [])
    (hnames : Path.names ⟨p.bytes.drop p.head.length⟩ = kept ++ more)
    (hne : p.head ++ [slash].intercalate kept ≠ []) :
    Path.isAbsolute ⟨p.head ++ [slash].intercalate kept⟩ = p.isAbsolute ∧
      Path.steps ⟨p.head ++ [slash].intercalate kept⟩ =
        kept.filter fun name => !isTrivial name := by
  cases kept with
  | nil =>
    rcases names_behind_head p with ⟨hhead, habs, -⟩ | ⟨hhead, habs, -⟩ | ⟨hhead, -⟩
    · rw [hhead, habs]
      exact ⟨rfl, rfl⟩
    · rw [hhead, habs]
      exact ⟨rfl, rfl⟩
    · rw [hhead] at hne
      exact absurd rfl hne
  | cons first kept =>
    have hfree : ∀ name ∈ first :: kept, ∀ b ∈ name, (b == slash) = false := by
      intro name hname
      have hmem : name ∈ pieces (· == slash) (p.bytes.drop p.head.length) := by
        rw [names] at hnames
        exact hnames ▸ List.mem_append_left _ hname
      exact separator_free_of_mem_pieces hmem
    have hjoined := pieces_intercalate (p := (· == slash)) (a := slash) (by decide)
      (List.cons_ne_nil first kept) hfree
    generalize [slash].intercalate (first :: kept) = joined at hjoined hne ⊢
    rcases names_behind_head p with
      ⟨hhead, habs, -⟩ | ⟨hhead, habs, rest, -, hbehind⟩ | ⟨hhead, habs⟩
    · rw [hhead, habs]
      have hempty : isTrivial [] = true := rfl
      exact ⟨rfl, by simp [steps, names, pieces, hjoined, hempty]⟩
    · rw [hbehind] at hnames
      obtain ⟨rfl, -⟩ := List.cons_eq_cons.mp hnames
      obtain ⟨piece, rest, hpieces, hcons⟩ :=
        pieces_cons (p := (· == slash)) (a := dot) (by decide) joined
      obtain ⟨rfl, rfl⟩ := List.cons_eq_cons.mp (hjoined.symm.trans hpieces)
      have hempty : isTrivial [] = true := rfl
      have hdot : isTrivial [dot] = true := rfl
      rw [hhead, habs]
      exact ⟨rfl, by simp [steps, names, hcons, hempty, hdot]⟩
    · rw [hhead, habs]
      obtain ⟨next, behind, hnext⟩ : ∃ next behind, kept ++ more = next :: behind :=
        List.exists_cons_of_ne_nil (by simp [hmore])
      rw [hhead, List.length_nil, List.drop_zero, List.cons_append, hnext] at hnames
      exact ⟨not_absolute_of_first hjoined (first_of_headless hhead hnames),
        by simp [steps, names, hjoined]⟩

/-- A parent leads where the path leads without its last step. The empty path leads nowhere new. -/
theorem parent_steps (h : p.parent? = some q) (hne : q.bytes ≠ []) :
    q.isAbsolute = p.isAbsolute ∧ q.steps = p.steps.dropLast := by
  cases hreversed : p.reversedNames with
  | nil =>
    simp only [parent?, hreversed] at h
    split at h
    · cases h
      exact absurd rfl hne
    · cases h
  | cons last outer =>
    simp only [parent?, hreversed, Option.some.injEq] at h
    subst h
    obtain ⟨between, behind, hnames, hbetween, hlast, hbehind⟩ := names_of_reversed hreversed
    have hnone {names : List (List UInt8)} (hall : ∀ name ∈ names, isTrivial name = true) :
        names.filter (fun name => !isTrivial name) = [] :=
      List.filter_eq_nil_iff.mpr fun name hname => by simp [hall name hname]
    have hsteps : p.steps =
        (outer.dropWhile isTrivial).reverse.filter (fun name => !isTrivial name) ++ [last] := by
      rw [steps_behind_head, hnames, List.filter_append, List.filter_append, hnone hbetween,
        List.filter_cons, hnone hbehind]
      simp [hlast]
    rw [hsteps, List.dropLast_concat]
    rw [List.append_assoc] at hnames
    exact kept_behind_head (by simp) hnames hne

/-- Only the root has no parent, however it is written, apart from the empty path. -/
theorem root_of_no_parent (h : p.parent? = none) (hne : p.bytes ≠ []) :
    p.isAbsolute = true ∧ p.steps = [] := by
  cases hreversed : p.reversedNames with
  | cons last outer => simp [parent?, hreversed] at h
  | nil =>
    have htrivial : ∀ name ∈ Path.names ⟨p.bytes.drop p.head.length⟩, isTrivial name = true := by
      intro name hname
      exact List.dropWhile_eq_nil_iff.mp hreversed name (List.mem_reverse.mpr hname)
    have hsteps : p.steps = [] := by
      rw [steps_behind_head]
      exact List.filter_eq_nil_iff.mpr fun name hname => by simp [htrivial name hname]
    refine ⟨?_, hsteps⟩
    rcases names_behind_head p with ⟨-, habs, -⟩ | ⟨hhead, -, -⟩ | ⟨hhead, habs⟩
    · exact habs
    · simp [parent?, hreversed, hhead] at h
    · obtain ⟨b, rest, hb⟩ := List.exists_cons_of_ne_nil hne
      have hslash : (b == slash) = false := by simpa [isAbsolute, hb] using habs
      obtain ⟨piece, more, -, hcons⟩ := pieces_cons (p := (· == slash)) hslash rest
      have hnames : p.names = (b :: piece) :: more := by rw [names, hb, hcons]
      rw [hhead, List.length_nil, List.drop_zero] at htrivial
      have hdot : b :: piece = [dot] := by
        simpa [isTrivial] using htrivial (b :: piece) (hnames ▸ List.mem_cons_self)
      simp [head, hnames, hdot] at hhead

theorem ancestors_of_empty {limit : Nat} (h : q ∈ Path.ancestorsWithin limit ⟨[]⟩) : q = ⟨[]⟩ := by
  cases limit with
  | zero => cases h
  | succ limit => simpa [ancestorsWithin, show Path.parent? ⟨[]⟩ = none from rfl] using h

/-- What a path lies in leads along the first of its steps. -/
theorem ancestor_steps (h : q ∈ p.ancestors) (hne : q.bytes ≠ []) :
    q.isAbsolute = p.isAbsolute ∧ q.steps <+: p.steps := by
  rw [ancestors] at h
  generalize p.bytes.length + 1 = limit at h
  induction limit generalizing p with
  | zero => cases h
  | succ limit ih =>
    rcases List.mem_cons.mp h with rfl | h
    · exact ⟨rfl, List.prefix_rfl⟩
    · cases hparent : p.parent? with
      | none => simp [hparent] at h
      | some outer =>
        simp only [hparent] at h
        obtain ⟨habs, hprefix⟩ := ih h
        by_cases houter : outer.bytes = []
        · obtain rfl : outer = ⟨[]⟩ := by rw [← houter]
          exact absurd (congrArg Path.bytes (ancestors_of_empty h)) hne
        · obtain ⟨houterabs, houtersteps⟩ := parent_steps hparent houter
          refine ⟨habs.trans houterabs, hprefix.trans ?_⟩
          rw [houtersteps]
          exact List.dropLast_prefix _

end Parent

end Path

end Groundcover
