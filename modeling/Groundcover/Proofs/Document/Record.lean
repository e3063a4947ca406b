import Groundcover.Document.Record
import Groundcover.Proofs.Document.Quoted

/-!
Printed records read back. A record is printed with each setting on a line of its own; where every
value is read as it was printed, the record is put together from all of them in their order.
-/

namespace Groundcover.Document

namespace Reader

variable {α β σ : Type} {d : Dialect} {s rest : List Char}

@[simp] theorem bind_apply (r : Reader α) (f : α → Reader β) (d : Dialect) (s : List Char) :
    (r >>= f) d s = match r d s with
      | .error e => .error e
      | .ok (a, rest) => f a d rest := rfl

@[simp] theorem pure_apply (a : α) (d : Dialect) (s : List Char) :
    (pure a : Reader α) d s = .ok (a, s) := rfl

@[simp] theorem dialect_apply (d : Dialect) (s : List Char) : dialect d s = .ok (d, s) := rfl

@[simp] theorem char_apply (c : Char) (d : Dialect) (rest : List Char) :
    char? c d (c :: rest) = .ok (true, rest) := by simp [char?]

theorem char_other {c other : Char} (h : other ≠ c) :
    char? c d (other :: rest) = .ok (false, other :: rest) := by simp [char?, h]

@[simp] theorem expect_apply (c : Char) (d : Dialect) (rest : List Char) :
    expect c d (c :: rest) = .ok ((), rest) := by simp [expect]

@[simp] theorem is_next_apply (c other : Char) (d : Dialect) (rest : List Char) :
    isNext c d (other :: rest) = .ok (other == c, other :: rest) := rfl

/-! Blank space -/

/-- Neither space nor a comment begins here. -/
def Solid (s : List Char) : Prop := ∀ c ∈ s.head?, isSpace c = false ∧ c ≠ '/'

theorem solid_nil : Solid [] := by simp [Solid]

theorem solid_cons {c : Char} (hspace : isSpace c = false) (hslash : c ≠ '/') : Solid (c :: s) := by
  rintro _ ⟨⟩
  exact ⟨hspace, hslash⟩

/-- A property that space and slashes lack tells a character from them. -/
theorem solid_char {p : Char → Bool} {c : Char} (h : p c = true)
    (hp : ([' ', '\t', '\n', '\r', '\x0b', '\x0c', '\u0085', '\u200e', '\u200f', '\u2028',
      '\u2029', '/'].all fun c => !p c) = true) : isSpace c = false ∧ c ≠ '/' := by
  have hnone := mt (List.all_eq_true.mp hp c) (by simp [h])
  simp_all [isSpace]

theorem blank_spaces {spaces : List Char} (hspaces : ∀ c ∈ spaces, isSpace c = true)
    (hs : Solid s) :
    blank d (spaces ++ s) = .ok ((), s) := by
  cases s with
  | nil =>
    have hdrop : (spaces ++ []).dropWhile isSpace = [] := List.dropWhile_append_of_pos hspaces
    rw [List.append_nil] at hdrop
    simp [blank, dropBlank, hdrop, Except.map]
  | cons c s =>
    obtain ⟨hspace, hslash⟩ := hs c rfl
    have hdrop : (spaces ++ c :: s).dropWhile isSpace = c :: s := by
      rw [List.dropWhile_append_of_pos hspaces, List.dropWhile_cons_of_neg (by simp [hspace])]
    rw [blank, dropBlank, hdrop]
    split <;> simp_all [Except.map]

theorem blank_solid (hs : Solid s) : blank d s = .ok ((), s) :=
  blank_spaces (List.forall_mem_nil _) hs

theorem comma_apply {spaces : List Char} (hspaces : ∀ c ∈ spaces, isSpace c = true) (hs : Solid s) :
    comma d (',' :: (spaces ++ s)) = .ok (true, s) := by
  have hcomma : Solid (',' :: (spaces ++ s)) := solid_cons (by decide) (by decide)
  simp [comma, blank_solid hcomma, blank_spaces hspaces hs]

/-! Names -/

/-- A name of which all characters belong to an identifier, and which begins no literal. -/
def isFieldName : List Char → Bool
  | [] => false
  | c :: name =>
    Text.Identifier.begins c && c != 'b' && c != 'r' && name.all Text.Identifier.continues

/-- A name begins with a character that is told from space, comments and closing parentheses. -/
theorem field_name_head {name : List Char} (h : isFieldName name = true) :
    ∃ c more, name = c :: more ∧ isSpace c = false ∧ c ≠ '/' ∧ c ≠ ')' := by
  cases name with
  | nil => cases h
  | cons c more =>
    simp only [isFieldName, Bool.and_eq_true] at h
    obtain ⟨hspace, hslash⟩ := solid_char h.1.1.1 (by decide +kernel)
    refine ⟨c, more, rfl, hspace, hslash, ?_⟩
    rintro rfl
    exact absurd h.1.1.1 (by decide)

theorem identifier_of_name {name : List Char} (h : isFieldName name = true) (rest : List Char) :
    identifierOf (name ++ ':' :: rest) = .ok (name, ':' :: rest) := by
  cases name with
  | nil => cases h
  | cons c name =>
    simp only [isFieldName, Bool.and_eq_true, bne_iff_ne, ne_eq, List.all_eq_true] at h
    obtain ⟨⟨⟨hbegins, hb⟩, hr⟩, hname⟩ := h
    have hliteral : beginsLiteral (c :: (name ++ ':' :: rest)) = false := by
      simp [beginsLiteral, List.isPrefixOf, Ne.symm hb, Ne.symm hr]
    have hraw : after? ['r', '#'] (c :: (name ++ ':' :: rest)) = none := by
      simp [after?, Ne.symm hr]
    have hcolon : Text.Identifier.continues ':' = false := by decide
    have hdrop : (name ++ ':' :: rest).dropWhile Text.Identifier.continues = ':' :: rest := by
      rw [List.dropWhile_append_of_pos hname, List.dropWhile_cons_of_neg (by simp [hcolon])]
    have htake : (name ++ ':' :: rest).takeWhile Text.Identifier.continues = name := by
      rw [List.takeWhile_append_of_pos hname, List.takeWhile_cons_of_neg (by simp [hcolon]),
        List.append_nil]
    have hend : continuesRaw ':' = false := by decide
    simp [identifierOf, hbegins, hliteral, hraw, hdrop, htake, hend]

theorem identifier_apply {name : String} (h : isFieldName name.toList = true) (d : Dialect)
    (rest : List Char) :
    identifier d (name.toList ++ ':' :: rest) = .ok (name, ':' :: rest) := by
  simp [identifier, ofFunction, identifier_of_name h, Except.map]

/-! Records -/

/-- A setting of a record in print: its name, the text of its value, and what the value does. -/
structure Setting (σ : Type) where
  name : String
  value : List Char
  set : σ → σ

/-- A setting that gives a value to a part of the record. -/
def Setting.of (name : String) (set : α → σ → σ) (a : α) (printed : List Char) : Setting σ :=
  ⟨name, printed, set a⟩

/-- A setting on a line of its own. -/
def Setting.line (inner : List Char) (setting : Setting σ) : List Char :=
  '\n' :: inner ++ setting.name.toList ++ ':' :: ' ' :: setting.value ++ [',']

/-- Settings as a record, with the parenthesis that closes it on a line of its own. -/
def block (inner outer : List Char) (settings : List (Setting σ)) : List Char :=
  '(' :: settings.flatMap (Setting.line inner) ++ '\n' :: outer ++ [')']

/-- The value of a setting is read as it is printed, by the field that the setting names. -/
structure Setting.Fits (fields : List (RecordField σ)) (setting : Setting σ) : Prop where
  name : isFieldName setting.name.toList = true
  solid : ∀ rest, Solid (setting.value ++ ',' :: rest)
  read : ∃ field, (fields.find? fun f => f.name = setting.name) = some field ∧
    ∀ rest, field.read {} (setting.value ++ ',' :: rest) = .ok (setting.set, ',' :: rest)

variable {fields : List (RecordField σ)}

/-- An entry takes its setting, unless one of that name stood before. -/
theorem entry_apply {setting : Setting σ} (h : setting.Fits fields) {seen : List String}
    (hnew : setting.name ∉ seen) (state : σ) (rest : List Char) :
    entry fields (seen, state) {}
        (setting.name.toList ++ ':' :: ' ' :: setting.value ++ ',' :: rest) =
      .ok ((setting.name :: seen, setting.set state), ',' :: rest) := by
  obtain ⟨field, hfind, hread⟩ := h.read
  have hcolon : blank {} (':' :: ' ' :: (setting.value ++ ',' :: rest)) =
      .ok ((), ':' :: ' ' :: (setting.value ++ ',' :: rest)) :=
    blank_solid (solid_cons (by decide) (by decide))
  have hvalue : blank {} (' ' :: (setting.value ++ ',' :: rest)) =
      .ok ((), setting.value ++ ',' :: rest) :=
    blank_spaces (show ∀ c ∈ [' '], isSpace c = true by simp [isSpace]) (h.solid rest)
  simp [entry, identifier_apply h.name, hcolon, hvalue, hfind, hnew, hread]

section Items

variable {β : Type} {item : β → Reader β} {close : Char} {fuel : Nat} {b b' : β}
  {spaces text between next : List Char}

/-- Items are looked for behind the blank space. -/
theorem fold_items_blank (hspaces : ∀ c ∈ spaces, isSpace c = true) (hs : Solid s) :
    foldItems item close fuel b d (spaces ++ s) = foldItems item close fuel b d s := by
  cases fuel with
  | zero => rfl
  | succ fuel => simp [foldItems, blank_spaces hspaces hs, blank_solid hs]

/-- Where the closing character stands, no item follows. -/
theorem fold_items_close (hspaces : ∀ c ∈ spaces, isSpace c = true)
    (hclose : Solid (close :: rest)) :
    foldItems item close (fuel + 1) b d (spaces ++ close :: rest) = .ok (b, close :: rest) := by
  simp [foldItems, blank_spaces hspaces hclose]

/-- An item with its comma is taken, and others may follow. -/
theorem fold_items_comma (hspaces : ∀ c ∈ spaces, isSpace c = true) (htext : Solid text)
    (hopen : text.head? ≠ some close) (hitem : item b d text = .ok (b', ',' :: (between ++ next)))
    (hbetween : ∀ c ∈ between, isSpace c = true) (hnext : Solid next) :
    foldItems item close (fuel + 1) b d (spaces ++ text) =
      foldItems item close fuel b' d (between ++ next) := by
  have hclose : isNext close d text = .ok (false, text) := by simp [isNext, hopen]
  simp [foldItems, blank_spaces hspaces htext, hclose, hitem, comma_apply hbetween hnext,
    fold_items_blank hbetween hnext]

end Items

section Settings

variable {inner outer : List Char} {settings : List (Setting σ)}

/-- Settings with what closes their record. -/
def openBlock (inner outer : List Char) (settings : List (Setting σ)) (rest : List Char) :
    List Char :=
  settings.flatMap (Setting.line inner) ++ '\n' :: outer ++ ')' :: rest

/-- A line that begins with the name of a setting. -/
theorem line_solid {setting : Setting σ} (h : isFieldName setting.name.toList = true)
    (text : List Char) :
    Solid (setting.name.toList ++ text) ∧ (setting.name.toList ++ text).head? ≠ some ')' := by
  obtain ⟨c, name, hname, hspace, hslash, hopen⟩ := field_name_head h
  rw [hname]
  exact ⟨solid_cons hspace hslash, by simpa using hopen⟩

theorem close_solid (rest : List Char) : Solid (')' :: rest) := solid_cons (by decide) (by decide)

variable (hinner : ∀ c ∈ inner, isSpace c = true) (houter : ∀ c ∈ outer, isSpace c = true)
include hinner houter

/-- Behind the line break and the indentation there is a setting, or the closing parenthesis. -/
theorem open_block_solid (settings : List (Setting σ))
    (hnames : ∀ setting ∈ settings, isFieldName setting.name.toList = true) (rest : List Char) :
    ∃ spaces text, openBlock inner outer settings rest = spaces ++ text ∧
      (∀ c ∈ spaces, isSpace c = true) ∧ Solid text := by
  cases settings with
  | nil =>
    exact ⟨'\n' :: outer, ')' :: rest, by simp [openBlock],
      List.forall_mem_cons.mpr ⟨by decide, houter⟩, close_solid rest⟩
  | cons setting settings =>
    have hname := hnames setting List.mem_cons_self
    exact ⟨'\n' :: inner, setting.name.toList ++ (':' :: ' ' :: setting.value ++
        ',' :: openBlock inner outer settings rest), by simp [openBlock, Setting.line],
      List.forall_mem_cons.mpr ⟨by decide, hinner⟩, (line_solid hname _).1⟩

/-- The settings of a record are read one after the other. -/
theorem fold_settings {fuel : Nat} (seen : List String) (start : σ)
    (hfits : ∀ setting ∈ settings, setting.Fits fields)
    (hnames : (settings.map Setting.name).Nodup) (hnew : ∀ setting ∈ settings, setting.name ∉ seen)
    (hfuel : settings.length < fuel) (rest : List Char) :
    ∃ seen',
      foldItems (entry fields) ')' fuel (seen, start) {} (openBlock inner outer settings rest) =
        .ok ((seen', settings.foldl (fun state setting => setting.set state) start),
          ')' :: rest) := by
  induction settings generalizing fuel seen start with
  | nil =>
    obtain ⟨fuel, rfl⟩ : ∃ k, fuel = k + 1 := ⟨fuel - 1, by simp at hfuel; omega⟩
    have hspaces : ∀ c ∈ '\n' :: outer, isSpace c = true :=
      List.forall_mem_cons.mpr ⟨by decide, houter⟩
    exact ⟨seen, fold_items_close hspaces (close_solid rest)⟩
  | cons setting settings ih =>
    obtain ⟨fuel, rfl⟩ : ∃ k, fuel = k + 1 := ⟨fuel - 1, by simp at hfuel; omega⟩
    obtain ⟨hfit, hfits⟩ := List.forall_mem_cons.mp hfits
    obtain ⟨hfresh, hnew⟩ := List.forall_mem_cons.mp hnew
    obtain ⟨hother, hnames⟩ := List.nodup_cons.mp hnames
    have hmore : ∀ other ∈ settings, other.name ∉ setting.name :: seen := by
      intro other hmem hseen
      rcases List.mem_cons.mp hseen with hsame | hseen
      · exact hother (hsame ▸ List.mem_map_of_mem hmem)
      · exact hnew other hmem hseen
    obtain ⟨seen', hrest⟩ := ih (setting.name :: seen) (setting.set start) hfits hnames hmore
      (by simpa using hfuel)
    have hentry := entry_apply hfit hfresh start (openBlock inner outer settings rest)
    obtain ⟨between, next, hsplit, hbetween, hnext⟩ := open_block_solid hinner houter settings
      (fun other hother => (hfits other hother).name) rest
    rw [hsplit] at hrest hentry
    have hopening : openBlock inner outer (setting :: settings) rest = ('\n' :: inner) ++
        (setting.name.toList ++ ':' :: ' ' :: setting.value ++ ',' :: (between ++ next)) := by
      rw [← hsplit]
      simp [openBlock, Setting.line]
    rw [List.append_assoc] at hopening hentry
    obtain ⟨hsolid, hopen⟩ :=
      line_solid hfit.name (':' :: ' ' :: setting.value ++ ',' :: (between ++ next))
    refine ⟨seen', ?_⟩
    rw [hopening, fold_items_comma (List.forall_mem_cons.mpr ⟨by decide, hinner⟩) hsolid hopen
      hentry hbetween hnext]
    exact hrest

/-- A printed record is read as what its settings make of the start. -/
theorem record_of_block (name : String) (start : σ)
    (hfits : ∀ setting ∈ settings, setting.Fits fields) (hnames : (settings.map Setting.name).Nodup)
    (hfree : ∀ f ∈ fields, f.isRequired = false) (rest : List Char) :
    record name fields start false {} (block inner outer settings ++ rest) =
      .ok (settings.foldl (fun state setting => setting.set state) start, rest) := by
  have hblock :
      block inner outer settings ++ rest = '(' :: openBlock inner outer settings rest := by
    simp [block, openBlock]
  have hfuel : settings.length < (openBlock inner outer settings rest).length + 1 := by
    have hline (setting : Setting σ) : setting.line inner ≠ [] := by simp [Setting.line]
    have hle := length_le_flat_map fun setting (_ : setting ∈ settings) => hline setting
    simp only [openBlock, List.length_append]
    omega
  obtain ⟨seen, hsettings⟩ := fold_settings hinner houter [] start hfits hnames
    (fun _ _ => List.not_mem_nil) hfuel rest
  have hfields : fieldsOf fields start {} (openBlock inner outer settings rest) =
      .ok (settings.foldl (fun state setting => setting.set state) start, ')' :: rest) := by
    have hnone : (fields.find? fun f => f.isRequired && !seen.contains f.name) = none :=
      List.find?_eq_none.mpr fun f hf => by simp [hfree f hf]
    simp only [fieldsOf, bind_apply, items, hsettings, hnone, pure_apply]
  have hopen : blank {} ('(' :: openBlock inner outer settings rest) =
      .ok ((), '(' :: openBlock inner outer settings rest) :=
    blank_solid (solid_cons (by decide) (by decide))
  have hname : typeName name {} ('(' :: openBlock inner outer settings rest) =
      .ok ((), '(' :: openBlock inner outer settings rest) := by
    have hboundary : Text.Identifier.continues '(' = false := by decide
    simp [typeName, bind, typeName.atName, atBoundary, hboundary, dialect]
  simp [record, hblock, hname, hopen, hfields]

end Settings

/-! Values -/

section Values

variable {value : Reader α} {text : List Char} {a : α}

theorem text_apply (text : String) (d : Dialect) (rest : List Char) :
    Reader.text d (Text.Escape.quote text.toList ++ rest) = .ok (text, rest) := by
  simp [Reader.text, ofFunction, Quoted.text_of_quote, Except.map]

theorem bool_apply (answer : Bool) (d : Dialect) (rest : List Char) :
    bool d ((if answer then "true" else "false").toList ++ ',' :: rest) =
      .ok (answer, ',' :: rest) := by
  have hcomma : Text.Identifier.continues ',' = false := by decide
  cases answer <;> simp [bool, word?, after?, atBoundary, hcomma]

theorem option_none (value : Bool → Reader α) (d : Dialect) (rest : List Char) :
    option value d ("None".toList ++ ',' :: rest) = .ok (none, ',' :: rest) := by
  have hcomma : Text.Identifier.continues ',' = false := by decide
  simp [option, word?, after?, atBoundary, hcomma]

theorem comma_none (d : Dialect) (rest : List Char) :
    comma d (')' :: rest) = .ok (false, ')' :: rest) := by
  simp [comma, blank_solid (close_solid rest), char_other]

theorem option_some (hsolid : Solid (text ++ ')' :: rest))
    (h : value {} (text ++ ')' :: rest) = .ok (a, ')' :: rest)) :
    option (plain value) {} ("Some(".toList ++ (text ++ ')' :: rest)) = .ok (some a, rest) := by
  have hparen : Text.Identifier.continues '(' = false := by decide
  have hopen : Solid ('(' :: (text ++ ')' :: rest)) := solid_cons (by decide) (by decide)
  have henclosed : enclosed (plain value) {} (text ++ ')' :: rest) = .ok (a, rest) := by
    simp [enclosed, plain, blank_solid hsolid, h, comma_none]
  simp [option, word?, after?, atBoundary, hparen, blank_solid hopen, henclosed]

end Values

/-- A field that may be left out is fit for any value that its reader takes back from print. -/
theorem Setting.Fits.of_free {name : String} {value : Reader α} {set : α → σ → σ} {a : α}
    {printed : List Char} (hname : isFieldName name.toList = true)
    (hfind : (fields.find? fun f => f.name = name) = some (.free name value set))
    (hsolid : ∀ rest, Solid (printed ++ ',' :: rest))
    (hread : ∀ rest, value {} (printed ++ ',' :: rest) = .ok (a, ',' :: rest)) :
    (Setting.of name set a printed).Fits fields :=
  ⟨hname, hsolid, _, hfind, fun rest => by simp [RecordField.free, hread, Setting.of]⟩

end Reader

end Groundcover.Document
