import Groundcover.Legend
import Mathlib.Data.Finset.Card
import Mathlib.Data.List.Induction

/-!
What a legend knows after its rows were registered: a class has the predicates of its rows, in their
order, whatever rows of other classes stand between them, and only classes with a row are known. The
list of classes and the index of their places say the same at every time.
-/

namespace Groundcover

/-- The predicates that rows give to a class, in the order of the rows. -/
def LegendRow.predicatesOf (rows : List LegendRow) (name : String) : List ValuePredicate :=
  (rows.filter fun r => r.className = name).map LegendRow.predicate

open LegendRow

namespace Legend

/-- A class that is found by its name lists the predicates that are looked up by it. -/
theorem predicates_of_class {l : Legend} {name : String} {c : LegendClass}
    (h : l.class? name = some c) : (l.predicatesFor name).value = c.predicates := by
  simp [predicatesFor, h]

/-- A name leads to the class that stands at its place. -/
theorem class_at_place (l : Legend) (name : String) :
    l.class? name = (l.place? name).bind fun i => l.classes[i]? := by
  unfold class?
  split
  · rename_i i h
    simp [h, l.place_lt h]
  · rename_i h
    simp [h]

/-- The class of a name is the listed one of that name. -/
theorem class_eq_some_iff {l : Legend} {name : String} {c : LegendClass} :
    l.class? name = some c ↔ c ∈ l.classes ∧ c.name = name := by
  rw [class_at_place, Option.bind_eq_some_iff]
  constructor
  · rintro ⟨i, hplace, hc⟩
    refine ⟨List.mem_of_getElem? hc, ?_⟩
    have hname := l.place_iff.mp hplace
    rw [List.getElem?_map, hc] at hname
    exact Option.some.inj hname
  · rintro ⟨hc, rfl⟩
    obtain ⟨i, hi⟩ := List.mem_iff_getElem?.mp hc
    exact ⟨i, l.place_iff.mpr (by rw [List.getElem?_map, hi]; rfl), hi⟩

section Push

variable (l : Legend) (i : Fin l.classes.length) (p : ValuePredicate)

theorem class_push_self : (l.push i p).class? (l.classes.get i).name =
    some ⟨(l.classes.get i).name, (l.classes.get i).predicates ++ [p]⟩ := by
  rw [class_eq_some_iff]
  refine ⟨List.mem_of_getElem? (i := i) ?_, rfl⟩
  simp [push]

theorem class_push_other {other : String} (h : other ≠ (l.classes.get i).name) :
    (l.push i p).class? other = l.class? other := by
  rw [class_at_place, class_at_place]
  change (l.place? other).bind _ = _
  cases hplace : l.place? other with
  | none => rfl
  | some j =>
    have hname := l.place_iff.mp hplace
    have hj : (i : Nat) ≠ j := by
      rintro rfl
      rw [List.getElem?_map, List.getElem?_eq_getElem i.isLt] at hname
      exact h (Option.some.inj hname).symm
    simp [push, hj]

end Push

theorem class_add_other (l : Legend) {name other : String} (h : l.place? name = none)
    (hne : other ≠ name) : (l.add name h).class? other = l.class? other := by
  have hplace : (l.add name h).place? other = l.place? other := by
    unfold place? add
    rw [List.lookup_cons, beq_false_of_ne hne]
  rw [class_at_place, class_at_place, hplace]
  cases hold : l.place? other with
  | none => rfl
  | some j => exact List.getElem?_append_left (l.place_lt hold)

/-- The class that is entered has the predicates of its name, and no other class changes. -/
theorem enter_spec (l : Legend) (name : String) :
    (l.enter name).1.classes.get (l.enter name).2 = ⟨name, (l.predicatesFor name).value⟩ ∧
      ∀ other, other ≠ name → (l.enter name).1.class? other = l.class? other := by
  unfold enter
  split
  · rename_i i h
    have hclass : l.class? name = some (l.classes.get ⟨i, l.place_lt h⟩) := by
      simp [class_at_place, h, l.place_lt h]
    refine ⟨?_, fun _ _ => rfl⟩
    rw [predicates_of_class hclass]
    obtain ⟨-, hname⟩ := class_eq_some_iff.mp hclass
    exact congrArg (LegendClass.mk · _) hname
  · rename_i h
    have hclass : l.class? name = none := by rw [class_at_place, h, Option.bind_none]
    refine ⟨?_, fun other hne => class_add_other l h hne⟩
    simp [add, predicatesFor, hclass]

/-- Registering a predicate appends it to those of its class and makes the class known. -/
theorem class_register_self (l : Legend) (name : String) (p : ValuePredicate) :
    (l.register name p).class? name = some ⟨name, (l.predicatesFor name).value ++ [p]⟩ := by
  obtain ⟨hclass, -⟩ := l.enter_spec name
  have hpush := class_push_self (l.enter name).1 (l.enter name).2 p
  rwa [hclass] at hpush

/-- Registering a predicate leaves every other class as it was. -/
theorem class_register_other (l : Legend) {name other : String} (p : ValuePredicate)
    (h : other ≠ name) : (l.register name p).class? other = l.class? other := by
  obtain ⟨hclass, hothers⟩ := l.enter_spec name
  rw [register, class_push_other _ _ _ (by rwa [hclass]), hothers other h]

/-- One more row adds to the predicates of its own class and to no other. -/
theorem predicates_register (l : Legend) (row : LegendRow) (name : String) :
    ((l.register row.className row.predicate).predicatesFor name).value =
      (l.predicatesFor name).value ++ predicatesOf [row] name := by
  by_cases h : row.className = name
  · subst h
    rw [predicates_of_class (class_register_self l row.className row.predicate)]
    simp [predicatesOf]
  · have hc := class_register_other l row.predicate (Ne.symm h)
    simp [predicatesFor, hc, predicatesOf, h]

/-- Rows registered on top of any legend append to its classes what they say about them. -/
theorem predicates_register_all (rows : List LegendRow) (l : Legend) (name : String) :
    ((rows.foldl (fun l row => l.register row.className row.predicate) l).predicatesFor
        name).value =
      (l.predicatesFor name).value ++ predicatesOf rows name := by
  induction rows generalizing l with
  | nil => simp [predicatesOf]
  | cons row rest ih =>
    rw [List.foldl_cons, ih, predicates_register, List.append_assoc]
    simp [predicatesOf, List.filter_cons]
    split <;> rfl

theorem predicates_of_rows (rows : List LegendRow) (name : String) :
    ((ofRows rows).predicatesFor name).value = predicatesOf rows name := by
  rw [ofRows, predicates_register_all]
  rfl

theorem rows_append (rows : List LegendRow) (row : LegendRow) :
    ofRows (rows ++ [row]) = (ofRows rows).register row.className row.predicate := by
  simp [ofRows]

/-- A class is known if some row names it, and then it has the predicates of those rows. -/
theorem class_of_rows (rows : List LegendRow) (name : String) :
    (ofRows rows).class? name =
      if predicatesOf rows name = [] then none else some ⟨name, predicatesOf rows name⟩ := by
  induction rows using List.reverseRecOn with
  | nil => rfl
  | append_singleton rows row ih =>
    rw [rows_append]
    by_cases h : row.className = name
    · subst h
      rw [class_register_self, predicates_of_rows]
      simp [predicatesOf]
    · rw [class_register_other _ _ (Ne.symm h), ih]
      simp [predicatesOf, h]

theorem place_is_some_iff (l : Legend) (name : String) :
    (l.place? name).isSome = true ↔ name ∈ l.classes.map LegendClass.name := by
  rw [Option.isSome_iff_exists, List.mem_iff_getElem?]
  exact exists_congr fun i => l.place_iff

/-- A name that is entered is listed behind all others, unless it is among them. -/
theorem names_enter (l : Legend) (name : String) :
    (l.enter name).1.classes.map LegendClass.name = l.classes.map LegendClass.name ++
      if name ∈ l.classes.map LegendClass.name then [] else [name] := by
  rw [← if_congr (l.place_is_some_iff name) rfl rfl]
  unfold enter
  split
  · rename_i i h
    simp [h]
  · rename_i h
    simp [h, add]

/-- Entering a name brings no predicate with it. -/
theorem predicates_enter (l : Legend) (name : String) :
    (l.enter name).1.classes.flatMap LegendClass.predicates =
      l.classes.flatMap LegendClass.predicates := by
  unfold enter
  split
  · rfl
  · simp [add]

/-- One predicate more is stored. -/
theorem predicates_push (l : Legend) (i : Fin l.classes.length) (p : ValuePredicate) :
    ((l.push i p).classes.flatMap LegendClass.predicates).length =
      (l.classes.flatMap LegendClass.predicates).length + 1 := by
  have hsplit : l.classes = l.classes.take i ++ l.classes[i] :: l.classes.drop (i + 1) := by
    rw [Fin.getElem_fin, ← List.drop_eq_getElem_cons i.isLt, List.take_append_drop]
  have hpushed : (l.push i p).classes = l.classes.take i ++
      ⟨l.classes[i].name, l.classes[i].predicates ++ [p]⟩ :: l.classes.drop (i + 1) :=
    List.modify_eq_take_cons_drop i.isLt
  rw [hpushed]
  conv => rhs; rw [hsplit]
  simp only [List.flatMap_append, List.flatMap_cons, List.length_append, List.length_singleton]
  omega

/-- Classes are listed under the names of the rows, each where it occurs first. -/
theorem names_of_rows (rows : List LegendRow) :
    (ofRows rows).classes.map LegendClass.name = (rows.map LegendRow.className).eraseDups := by
  induction rows using List.reverseRecOn with
  | nil => rfl
  | append_singleton rows row ih =>
    rw [rows_append, register, push, names_modified, names_enter, ih, List.map_append,
      List.eraseDups_append]
    have hlast : ([row].map LegendRow.className).removeAll (rows.map LegendRow.className) =
        if row.className ∈ rows.map LegendRow.className then [] else [row.className] := by
      rw [List.map_singleton, List.removeAll, List.filter_singleton, List.elem_eq_mem]
      by_cases h : row.className ∈ rows.map LegendRow.className <;> simp [h]
    rw [hlast, if_congr List.mem_eraseDups rfl rfl]
    split <;> rfl

theorem stored_of_rows (rows : List LegendRow) :
    ((ofRows rows).classes.flatMap LegendClass.predicates).length = rows.length := by
  induction rows using List.reverseRecOn with
  | nil => rfl
  | append_singleton rows row ih =>
    rw [rows_append, register, predicates_push, predicates_enter, ih, List.length_append]
    rfl

/-- No two classes have one name, since the index has one place for it. -/
theorem names_nodup (l : Legend) : (l.classes.map LegendClass.name).Nodup := by
  rw [List.nodup_iff_injective_get]
  intro i j hij
  have hi := l.finds i _ (List.getElem?_eq_getElem i.isLt)
  have hj := l.finds j _ (List.getElem?_eq_getElem j.isLt)
  rw [← List.get_eq_getElem, hij] at hi
  exact Fin.ext (Option.some.inj (hi.symm.trans hj))

/-- What the index holds leads to the class of the name it is held under. -/
theorem class_of_entry (l : Legend) {entry : String × Nat} (h : entry ∈ l.places) :
    ∃ c, l.classes[entry.2]? = some c ∧ c.name = entry.1 := by
  have hname := l.leads entry h
  rw [List.getElem?_map] at hname
  exact Option.map_eq_some_iff.mp hname

theorem place_of_class (l : Legend) {i : Nat} {c : LegendClass} (h : l.classes[i]? = some c) :
    l.place? c.name = some i := by
  rw [place_iff, List.getElem?_map, h]
  rfl

theorem known_iff (rows : List LegendRow) (name : String) :
    (ofRows rows).class? name = none ↔ name ∉ rows.map LegendRow.className := by
  have hempty : predicatesOf rows name = [] ↔ name ∉ rows.map LegendRow.className := by
    simp [predicatesOf, List.filter_eq_nil_iff]
  rw [class_of_rows, ← hempty]
  by_cases h : predicatesOf rows name = [] <;> simp [h]

end Legend

/-- Rows that are registered one after the other, in any order, are all kept. Every class stands in
the legend once, in the order in which the names first occur, with the predicates of its own rows
in their order. The index holds places in the list only, each under the name of the class that
stands there, and a class is found through it exactly when a row has named it; a look-up that finds
none gives no predicates, and one warning. -/
theorem legend_keeps_every_row (rows : List LegendRow) :
    let l := Legend.ofRows rows
    let names := rows.map LegendRow.className
    l.classes.map LegendClass.name = names.eraseDups ∧
    (l.classes.map LegendClass.name).Nodup ∧
    l.size = names.toFinset.card ∧
    (l.classes.flatMap LegendClass.predicates).length = rows.length ∧
    (∀ entry ∈ l.places, ∃ c, l.classes[entry.2]? = some c ∧ c.name = entry.1) ∧
    (∀ i c, l.classes[i]? = some c → l.place? c.name = some i ∧ l.class? c.name = some c ∧
      c.predicates = predicatesOf rows c.name) ∧
    ∀ name,
      (name ∈ names → ∃ c ∈ l.classes, c.name = name ∧ l.class? name = some c ∧
        l.predicatesFor name = ⟨c.predicates, []⟩) ∧
      (name ∉ names → l.class? name = none ∧ l.predicatesFor name =
        ⟨[], [⟨.warn, .legend, "class \"" ++ name ++ "\" not found in the legend"⟩]⟩) := by
  intro l names
  have hnames : l.classes.map LegendClass.name = names.eraseDups := Legend.names_of_rows rows
  have hsize : l.size = names.toFinset.card := by
    have hsame : (l.classes.map LegendClass.name).toFinset = names.toFinset := by
      ext name
      rw [hnames, List.mem_toFinset, List.mem_eraseDups, List.mem_toFinset]
    rw [← hsame, List.toFinset_card_of_nodup l.names_nodup, List.length_map]
    rfl
  refine ⟨hnames, l.names_nodup, hsize, Legend.stored_of_rows rows, fun _ => l.class_of_entry,
    ?_, fun name => ⟨?_, ?_⟩⟩
  · intro i c hc
    have hclass : l.class? c.name = some c :=
      Legend.class_eq_some_iff.mpr ⟨List.mem_of_getElem? hc, rfl⟩
    refine ⟨l.place_of_class hc, hclass, ?_⟩
    rw [← Legend.predicates_of_class hclass, Legend.predicates_of_rows]
  · intro hname
    obtain ⟨c, hc⟩ := Option.ne_none_iff_exists'.mp
      (mt (Legend.known_iff rows name).mp (not_not_intro hname))
    obtain ⟨hmem, hcalled⟩ := Legend.class_eq_some_iff.mp hc
    exact ⟨c, hmem, hcalled, hc, by rw [Legend.predicatesFor, hc]⟩
  · intro hname
    have hnone := (Legend.known_iff rows name).mpr hname
    exact ⟨hnone, by rw [Legend.predicatesFor, hnone]⟩

/-- Rows of three classes among each other, one of them with an empty name. -/
theorem legend_keeps_every_row_interleaved :
    let rows : List LegendRow := [⟨"wood", { exact := some .one }⟩, ⟨"", {}⟩,
      ⟨"wood", { min := some .zero }⟩, ⟨"sand", { max := some .one }⟩]
    let l := Legend.ofRows rows
    "wood" ∈ rows.map LegendRow.className ∧ "rock" ∉ rows.map LegendRow.className ∧
      l.classes.map LegendClass.name = ["wood", "", "sand"] ∧
      (l.classes.flatMap LegendClass.predicates).length = 4 ∧
      (∃ c ∈ l.classes, c.name = "wood" ∧ l.class? "wood" = some c ∧
        l.predicatesFor "wood" = ⟨c.predicates, []⟩) ∧
      (l.predicatesFor "rock").records.length = 1 := by
  intro rows l
  have hknown : "wood" ∈ rows.map LegendRow.className := by decide
  have hunknown : "rock" ∉ rows.map LegendRow.className := by decide
  obtain ⟨hnames, -, -, hstored, -, -, hclass⟩ := legend_keeps_every_row rows
  have hlisted : (rows.map LegendRow.className).eraseDups = ["wood", "", "sand"] := by decide
  refine ⟨hknown, hunknown, hnames.trans hlisted, hstored, (hclass "wood").1 hknown, ?_⟩
  rw [((hclass "rock").2 hunknown).2]
  rfl

end Groundcover
