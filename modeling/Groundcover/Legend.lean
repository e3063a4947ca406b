import Groundcover.Legend.Predicate
import Groundcover.Log

/-!
The legend names the classes of land and says which sampled values belong to each. Classes stand in
the order of their first registration, and the predicates of a class in the order of registration.
-/

namespace Groundcover

/-- A class and the predicates that identify it. -/
structure LegendClass where
  name : String
  predicates : List ValuePredicate
  deriving DecidableEq

/-- One row of a legend as a manifest states it. -/
structure LegendRow where
  className : String
  predicate : ValuePredicate
  deriving DecidableEq

/--
The classes known, in order, and an index of the places where they stand. What the index says of a
name leads to the class of that name, and every class is found in this way.
-/
structure Legend where
  classes : List LegendClass
  places : List (String × Nat)
  leads : ∀ entry ∈ places, (classes.map LegendClass.name)[entry.2]? = some entry.1
  finds : ∀ i name, (classes.map LegendClass.name)[i]? = some name → places.lookup name = some i
  deriving DecidableEq

namespace Legend

instance : EmptyCollection Legend where
  emptyCollection := { classes := [], places := [], leads := by simp, finds := by simp }

/-- Where the class of a name stands. -/
def place? (l : Legend) (name : String) : Option Nat := l.places.lookup name

theorem place_iff (l : Legend) {name : String} {i : Nat} :
    l.place? name = some i ↔ (l.classes.map LegendClass.name)[i]? = some name := by
  constructor
  · intro h
    obtain ⟨front, back, hsplit, -⟩ := List.lookup_eq_some_iff.mp h
    exact l.leads (name, i) (by simp [hsplit])
  · exact l.finds i name

theorem place_lt (l : Legend) {name : String} {i : Nat} (h : l.place? name = some i) :
    i < l.classes.length := by
  have hi := (List.getElem?_eq_some_iff.mp (l.place_iff.mp h)).1
  rwa [List.length_map] at hi

/-- One more predicate does not change how classes are called. -/
theorem names_modified (classes : List LegendClass) (i : Nat) (p : ValuePredicate) :
    (classes.modify i fun c => { c with predicates := c.predicates ++ [p] }).map LegendClass.name =
      classes.map LegendClass.name := by
  apply List.ext_getElem?
  intro j
  rw [List.getElem?_map, List.getElem?_modify, List.getElem?_map]
  cases classes[j]? with
  | none => rfl
  | some c => by_cases hj : i = j <;> simp [hj]

/-- Puts a predicate behind those of the class at a place. -/
def push (l : Legend) (i : Fin l.classes.length) (p : ValuePredicate) : Legend where
  classes := l.classes.modify i fun c => { c with predicates := c.predicates ++ [p] }
  places := l.places
  leads := by
    rw [names_modified]
    exact l.leads
  finds := by
    rw [names_modified]
    exact l.finds

/-- A new last class puts its name behind those of the others. -/
theorem names_added (classes : List LegendClass) (c : LegendClass) {i : Nat} {name : String} :
    ((classes ++ [c]).map LegendClass.name)[i]? = some name ↔
      (classes.map LegendClass.name)[i]? = some name ∨ (i = classes.length ∧ c.name = name) := by
  rw [List.map_append, List.getElem?_append, List.length_map]
  split
  · have hne : i ≠ classes.length := by omega
    simp [hne]
  · rename_i h
    have hnone : (classes.map LegendClass.name)[i]? = none := by simpa using h
    rw [hnone, List.map_singleton, List.getElem?_singleton]
    split
    · have hlast : i = classes.length := by omega
      simp [hlast]
    · have hne : i ≠ classes.length := by omega
      simp [hne]

/-- Puts a new class, which has no predicates yet, behind all others. -/
def add (l : Legend) (name : String) (h : l.place? name = none) : Legend where
  classes := l.classes ++ [⟨name, []⟩]
  places := (name, l.classes.length) :: l.places
  leads := by
    intro entry hentry
    rw [names_added]
    rcases List.mem_cons.mp hentry with rfl | hold
    · exact .inr ⟨rfl, rfl⟩
    · exact .inl (l.leads entry hold)
  finds := by
    intro i other hother
    rcases (names_added l.classes ⟨name, []⟩).mp hother with hold | ⟨rfl, rfl⟩
    · have hplace := l.place_iff.mpr hold
      have hne : other ≠ name := by
        rintro rfl
        rw [h] at hplace
        cases hplace
      rw [List.lookup_cons, beq_false_of_ne hne]
      exact hplace
    · exact List.lookup_cons_self

/-- The place of the class of a name. If there is none yet, it is entered without predicates. -/
def enter (l : Legend) (name : String) : (m : Legend) × Fin m.classes.length :=
  match h : l.place? name with
  | some i => ⟨l, i, l.place_lt h⟩
  | none => ⟨l.add name h, l.classes.length, by simp [add]⟩

def register (l : Legend) (name : String) (predicate : ValuePredicate) : Legend :=
  (l.enter name).1.push (l.enter name).2 predicate

/-- The legend of some rows, registered one after the other. -/
def ofRows (rows : List LegendRow) : Legend :=
  rows.foldl (fun l row => l.register row.className row.predicate) {}

def class? (l : Legend) (name : String) : Option LegendClass :=
  match h : l.place? name with
  | some i => some (l.classes.get ⟨i, l.place_lt h⟩)
  | none => none

def size (l : Legend) : Nat := l.classes.length

/-- The predicates of a class; a class that is not known has none, and a warning says so. -/
def predicatesFor (l : Legend) (name : String) : Logged (List ValuePredicate) :=
  match l.class? name with
  | some c => ⟨c.predicates, []⟩
  | none => ⟨[], [⟨.warn, .legend, "class \"" ++ name ++ "\" not found in the legend"⟩]⟩

end Legend

end Groundcover
