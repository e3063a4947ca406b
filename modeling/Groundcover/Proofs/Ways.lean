import Groundcover.Proofs.Storage

/-!
What a path depends on. A lookup sees the places that the path leads through and no others, so it
comes out the same on any disk that has the same there. In a tree those are all around the last of
them, unless the path goes up.
-/

namespace Groundcover.Disk

open Groundcover.Path Execution

variable {d e f : Disk} {p q : Path}

/-- The places that names lead through, as far as they lead. -/
def way (d : Disk) : Location → List (List UInt8) → List Location
  | l, [] => [l]
  | l, name :: names => l :: match d.step l name with
    | .ok next => d.way next names
    | .error _ => []

/-- The places that a path leads through, from where it begins. -/
def wayOf (d : Disk) (p : Path) : List Location := d.way (d.origin p) p.names

/-- A path leads to the place of another one, and perhaps on from there. -/
def PassesThrough (d : Disk) (p q : Path) : Prop := ∃ l ∈ d.wayOf p, d.locate q = .ok l

instance (d : Disk) (p q : Path) : Decidable (d.PassesThrough p q) :=
  inferInstanceAs (Decidable (∃ l ∈ _, _))

theorem step_of_place {l : Location} (h : e.at? l = d.at? l) (name : List UInt8) :
    e.step l name = d.step l name := by
  simp only [step, h]

/-- Names lead the same way where the places on it are the same, and end on it. -/
theorem leads_of_way {l : Location} {names : List (List UInt8)}
    (h : ∀ k ∈ d.way l names, e.at? k = d.at? k) :
    names.foldlM e.step l = names.foldlM d.step l ∧
      ∀ k, names.foldlM d.step l = .ok k → k ∈ d.way l names := by
  induction names generalizing l with
  | nil =>
    refine ⟨rfl, fun k hk => ?_⟩
    obtain rfl := leads_nil.mp hk
    exact List.mem_cons_self
  | cons name names ih =>
    obtain ⟨hl, hrest⟩ := List.forall_mem_cons.mp h
    rw [List.foldlM_cons, List.foldlM_cons, step_of_place hl]
    cases hstep : d.step l name with
    | error why => exact ⟨rfl, nofun⟩
    | ok next =>
      rw [hstep] at hrest
      obtain ⟨hsame, hend⟩ := ih hrest
      exact ⟨hsame, fun k hk => List.mem_cons_of_mem l (by rw [hstep]; exact hend k hk)⟩

theorem lookup_of_way (hhere : e.here = d.here) (h : ∀ l ∈ d.wayOf p, e.at? l = d.at? l) :
    e.lookup p = d.lookup p := by
  have horigin : e.origin p = d.origin p := by rw [origin, origin, hhere]
  obtain ⟨hsame, hend⟩ := leads_of_way h
  have hlocate : e.locate p = d.locate p := by
    simp only [locate, follow]
    rw [← origin, ← origin, horigin, hsame]
  rw [lookup, lookup, hlocate]
  cases hplace : d.locate p with
  | error why => rfl
  | ok l =>
    have hl : l ∈ d.wayOf p := hend l (follow_eq_ok.mp hplace).2
    simp only [bind, Except.bind, h l hl]

/-- Whatever there is lies in a directory. -/
def IsTree (d : Disk) : Prop := ∀ name l, d.at? (name :: l) ≠ none → d.at? l = some .directory

/-- All around a directory of a tree are directories. -/
theorem IsTree.around {l k : Location} (h : d.IsTree) (hl : l <:+ k)
    (hk : d.at? k = some .directory) :
    d.at? l = some .directory := by
  induction k with
  | nil =>
    obtain rfl := List.suffix_nil.mp hl
    rfl
  | cons name k ih =>
    rcases List.suffix_cons_iff.mp hl with rfl | hl
    · exact hk
    · exact ih hl (h name k (by simp [hk]))

theorem step_inward {l k : Location} {name : List UInt8} (hup : isUp name = false)
    (h : d.step l name = .ok k) : k = l ∨ k = name :: l := by
  simp only [step, directory_of_step h, hup, Bool.false_eq_true, if_false] at h
  split at h
  · exact .inl (Except.ok.inj h).symm
  · split at h
    · cases h
    · exact .inr (Except.ok.inj h).symm

/-- Names that do not go up lead to places inside of that where they begin. -/
theorem Leads.inward {l k : Location} {names : List (List UInt8)} (h : d.Leads l names k)
    (hup : ∀ name ∈ names, isUp name = false) : l <:+ k := by
  induction names generalizing l with
  | nil =>
    obtain rfl := leads_nil.mp h
    exact List.suffix_rfl
  | cons name names ih =>
    obtain ⟨hname, hnames⟩ := List.forall_mem_cons.mp hup
    obtain ⟨next, hstep, hrest⟩ := leads_cons.mp h
    rcases step_inward hname hstep with rfl | rfl
    · exact ih hrest hnames
    · exact (List.suffix_cons name l).trans (ih hrest hnames)

/-- Names that do not go up lead to a directory of a tree, if they lead there on another disk. -/
theorem IsTree.leads {l k : Location} {names : List (List UInt8)} (ht : d.IsTree)
    (hk : d.at? k = some .directory) (h : e.Leads l names k)
    (hup : ∀ name ∈ names, isUp name = false) : d.Leads l names k := by
  induction names generalizing l with
  | nil => exact h
  | cons name names ih =>
    have hl := ht.around (h.inward hup) hk
    obtain ⟨next, hstep, hrest⟩ := leads_cons.mp h
    have hsame : d.step l name = e.step l name :=
      step_of_place (hl.trans (directory_of_step hstep).symm) name
    exact leads_cons.mpr ⟨next, hsame.trans hstep, ih hrest (List.forall_mem_cons.mp hup).2⟩

/-- Two disks with the same at every place. -/
structure Alike (d e : Disk) : Prop where
  here : e.here = d.here
  places : ∀ l, e.at? l = d.at? l

namespace Alike

theorem refl (d : Disk) : Alike d d := ⟨rfl, fun _ => rfl⟩

theorem trans (h : Alike d e) (h' : Alike e f) : Alike d f :=
  ⟨h'.here.trans h.here, fun l => (h'.places l).trans (h.places l)⟩

theorem lookup (h : Alike d e) (p : Path) : e.lookup p = d.lookup p :=
  lookup_of_way h.here fun l _ => h.places l

end Alike

end Groundcover.Disk
