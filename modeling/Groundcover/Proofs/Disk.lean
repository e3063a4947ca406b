import Groundcover.Disk
import Groundcover.Proofs.Path

/-!
Walks through a tree of directories and what changes do to them. A change that takes no directory
away keeps every walk, so the places that paths lead to stay the same while files are written.
-/

namespace Groundcover

theorem except_bind_ok {ε α β : Type} {x : Except ε α} {f : α → Except ε β} {b : β} :
    (x >>= f) = .ok b ↔ ∃ a, x = .ok a ∧ f a = .ok b := by
  cases x <;> simp [bind, Except.bind]

theorem except_bind_error {ε α β : Type} {x : Except ε α} {f : α → Except ε β} {e : ε} :
    (x >>= f) = .error e ↔ x = .error e ∨ ∃ a, x = .ok a ∧ f a = .error e := by
  cases x <;> simp [bind, Except.bind]

namespace Disk

open Groundcover.Path

variable {d e : Disk} {l k : Location} {p : Path} {name : List UInt8}

/-- Names lead from one place to another. -/
def Leads (d : Disk) (l : Location) (names : List (List UInt8)) (k : Location) : Prop :=
  names.foldlM d.step l = .ok k

theorem leads_nil : d.Leads l [] k ↔ l = k := by
  simp [Leads, pure, Except.pure]

theorem leads_cons {names : List (List UInt8)} :
    d.Leads l (name :: names) k ↔ ∃ next, d.step l name = .ok next ∧ d.Leads next names k := by
  rw [Leads, List.foldlM_cons, except_bind_ok]
  rfl

theorem leads_append {names more : List (List UInt8)} :
    d.Leads l (names ++ more) k ↔ ∃ next, d.Leads l names next ∧ d.Leads next more k := by
  rw [Leads, List.foldlM_append, except_bind_ok]
  rfl

/-- Only a directory leads on. -/
theorem directory_of_step (h : d.step l name = .ok k) : d.at? l = some .directory := by
  unfold step at h
  split at h
  · cases h
  · cases h
  · assumption

theorem step_trivial (ht : isTrivial name = true) (h : d.step l name = .ok k) : k = l := by
  simp only [step, directory_of_step h, ht, if_true, Except.ok.injEq] at h
  exact h.symm

theorem step_plain (hname : IsPlainName name) (h : d.step l name = .ok k) : k = name :: l := by
  have hdir := directory_of_step h
  simp only [step, hdir, hname.nontrivial, hname.down, Bool.false_eq_true, if_false] at h
  split at h
  · cases h
  · exact (Except.ok.inj h).symm

/-- Where names lead, those of them lead that are not trivial. -/
theorem Leads.nontrivial {names : List (List UInt8)} (h : d.Leads l names k) :
    d.Leads l (names.filter fun name => !isTrivial name) k := by
  induction names generalizing l with
  | nil => exact h
  | cons name names ih =>
    obtain ⟨next, hstep, hrest⟩ := leads_cons.mp h
    cases ht : isTrivial name with
    | true =>
      obtain rfl := step_trivial ht hstep
      simpa [List.filter_cons, ht] using ih hrest
    | false =>
      simp only [List.filter_cons, ht, Bool.not_false, if_true]
      exact leads_cons.mpr ⟨next, hstep, ih hrest⟩

theorem Leads.of_trivial {names : List (List UInt8)} (h : d.Leads l names k)
    (ht : ∀ name ∈ names, isTrivial name = true) : k = l := by
  have hnone : (names.filter fun name => !isTrivial name) = [] :=
    List.filter_eq_nil_iff.mpr fun name hname => by simp [ht name hname]
  have hleads := h.nontrivial
  rw [hnone] at hleads
  exact (leads_nil.mp hleads).symm

/-- A directory is not left by trivial names. -/
theorem leads_trivial {names : List (List UInt8)} (hl : d.at? l = some .directory)
    (h : ∀ name ∈ names, isTrivial name = true) : d.Leads l names l := by
  induction names with
  | nil => exact leads_nil.mpr rfl
  | cons name names ih =>
    obtain ⟨hname, hnames⟩ := List.forall_mem_cons.mp h
    exact leads_cons.mpr ⟨l, by simp [step, hl, hname], ih hnames⟩

/-- Where the way of a path begins. -/
def origin (d : Disk) (p : Path) : Location := if p.isAbsolute then [] else d.here

/-- The way of a path ends at a directory. -/
def IsDirectory (d : Disk) (p : Path) : Prop :=
  ∃ l, d.Leads (d.origin p) p.steps l ∧ d.at? l = some .directory

/-- A path that a system call takes: it is not empty, has no zero byte and is not too long. -/
def Followable (p : Path) : Prop :=
  p.bytes.isEmpty = false ∧ p.bytes.contains 0 = false ∧ p.bytes.length ≤ maxPathLength

theorem follow_eq_ok {names : List (List UInt8)} :
    d.follow p names = .ok l ↔ Followable p ∧ d.Leads (d.origin p) names l := by
  unfold follow Followable
  cases p.bytes.isEmpty with
  | true => simp
  | false =>
    cases p.bytes.contains 0 with
    | true => simp
    | false =>
      by_cases hlong : maxPathLength < p.bytes.length
      · simp [hlong, Nat.not_le.mpr hlong]
      · simp only [Bool.false_eq_true, if_false, hlong, Nat.not_lt.mp hlong, true_and]
        rfl

theorem lookup_eq_ok {node : Node} :
    d.lookup p = .ok node ↔ ∃ l, d.locate p = .ok l ∧ d.at? l = some node := by
  rw [lookup, except_bind_ok]
  apply exists_congr
  intro l
  apply and_congr_right
  intro _
  cases d.at? l <;> simp [pure, Except.pure]

theorem is_directory_of_lookup (h : d.lookup p = .ok .directory) : d.IsDirectory p := by
  obtain ⟨l, hlocate, hat⟩ := lookup_eq_ok.mp h
  exact ⟨l, (follow_eq_ok.mp hlocate).2.nontrivial, hat⟩

/-- What a directory lies in is a directory too. -/
theorem IsDirectory.ancestor {q : Path} (h : d.IsDirectory p) (hq : q ∈ p.ancestors)
    (hne : q.bytes ≠ []) : d.IsDirectory q := by
  obtain ⟨l, hleads, hat⟩ := h
  obtain ⟨habs, more, hmore⟩ := ancestor_steps hq hne
  have horigin : d.origin q = d.origin p := by rw [origin, origin, habs]
  rw [← hmore] at hleads
  obtain ⟨next, hnext, hrest⟩ := leads_append.mp hleads
  refine ⟨next, horigin ▸ hnext, ?_⟩
  cases more with
  | nil =>
    obtain rfl := leads_nil.mp hrest
    exact hat
  | cons name more =>
    obtain ⟨_, hstep, -⟩ := leads_cons.mp hrest
    exact directory_of_step hstep

/-- A file in a directory has its place right below that of the directory. -/
theorem locate_file {directory file : Path} (hfile : IsPlainName file.bytes)
    (h : d.locate (directory.join file) = .ok l) :
    ∃ place, d.Leads (d.origin directory) directory.steps place ∧ d.at? place = some .directory ∧
      l = file.bytes :: place := by
  obtain ⟨outer, hnames, hdirectory⟩ := join_names hfile directory
  have hleads := (follow_eq_ok.mp h).2
  rw [hnames] at hleads
  obtain ⟨place, houter, hlast⟩ := leads_append.mp hleads
  obtain ⟨next, hstep, hend⟩ := leads_cons.mp hlast
  obtain rfl := leads_nil.mp hend
  have hat := directory_of_step hstep
  have horigin : d.origin (directory.join file) = d.origin directory := by
    rw [origin, origin, join_absolute hfile]
  have hempty : d.Leads place [[]] place := leads_trivial hat (by simp [isTrivial])
  refine ⟨place, ?_, hat, step_plain hfile hstep⟩
  rw [horigin] at houter
  rcases hdirectory with hd | hd
  · rw [← hd] at houter
    exact houter.nontrivial
  · have hall := leads_append.mpr ⟨place, houter, hempty⟩
    rw [← hd] at hall
    exact hall.nontrivial

/-- Nothing that was a directory has become anything else. -/
structure Keeps (d e : Disk) : Prop where
  here : e.here = d.here
  directories : ∀ l, d.at? l = some .directory → e.at? l = some .directory

namespace Keeps

theorem refl (d : Disk) : d.Keeps d := ⟨rfl, fun _ h => h⟩

theorem trans {f : Disk} (h : d.Keeps e) (h' : e.Keeps f) : d.Keeps f :=
  ⟨h'.here.trans h.here, fun l hl => h'.directories l (h.directories l hl)⟩

theorem step (h : d.Keeps e) (hs : d.step l name = .ok k) : e.step l name = .ok k := by
  have hd := directory_of_step hs
  simp only [Disk.step, hd] at hs
  simpa only [Disk.step, h.directories l hd] using hs

theorem leads (h : d.Keeps e) {names : List (List UInt8)} (hl : d.Leads l names k) :
    e.Leads l names k := by
  induction names generalizing l with
  | nil => exact hl
  | cons name names ih =>
    obtain ⟨next, hstep, hrest⟩ := leads_cons.mp hl
    exact leads_cons.mpr ⟨next, h.step hstep, ih hrest⟩

theorem origin (h : d.Keeps e) (p : Path) : e.origin p = d.origin p := by
  rw [Disk.origin, Disk.origin, h.here]

theorem locate (h : d.Keeps e) (hl : d.locate p = .ok l) : e.locate p = .ok l := by
  obtain ⟨hp, hleads⟩ := follow_eq_ok.mp hl
  exact follow_eq_ok.mpr ⟨hp, h.origin p ▸ h.leads hleads⟩

theorem is_directory (h : d.Keeps e) (hd : d.IsDirectory p) : e.IsDirectory p := by
  obtain ⟨l, hleads, hat⟩ := hd
  exact ⟨l, h.origin p ▸ h.leads hleads, h.directories l hat⟩

/-- What replaces no directory keeps them all. -/
theorem put {node : Node} (hl : d.at? l ≠ some .directory) : d.Keeps (d.put l node) := by
  have hne : l ≠ [] := by
    rintro rfl
    exact hl rfl
  refine ⟨rfl, fun k hk => ?_⟩
  rw [at?_put node hne, if_neg, hk]
  rintro rfl
  exact hl hk

end Keeps

/-- A file is written at its place, where no directory was. -/
theorem write_eq_ok {content : List UInt8} (h : d.write p content = .ok e) :
    ∃ l, d.locate p = .ok l ∧ d.at? l ≠ some .directory ∧ e = d.put l (.file content) := by
  obtain ⟨l, hlocate, hput⟩ := except_bind_ok.mp h
  refine ⟨l, hlocate, ?_⟩
  split at hput
  · cases hput
  · rename_i hnode
    exact ⟨fun hat => hnode hat, (Except.ok.inj hput).symm⟩

/-- The names of a path are those that a new directory is made by, and slashes behind them. -/
theorem names_but_slashes (p : Path) : ∃ slashes : List (List UInt8),
    p.names = (p.names.reverse.dropWhile List.isEmpty).reverse ++ slashes ∧
      ∀ name ∈ slashes, isTrivial name = true := by
  refine ⟨(p.names.reverse.takeWhile List.isEmpty).reverse, ?_, fun name hname => ?_⟩
  · rw [← List.reverse_append, List.takeWhile_append_dropWhile, List.reverse_reverse]
  · have hempty := List.mem_takeWhile_imp (List.mem_reverse.mp hname)
    simp [isTrivial, List.isEmpty_iff.mp hempty]

/-- A directory is made at its place, where nothing was. -/
theorem make_dir_eq_ok (h : d.makeDir p = .ok e) :
    ∃ l, d.at? l = none ∧ e = d.put l .directory ∧ e.locate p = .ok l := by
  obtain ⟨l, hfollow, hput⟩ := except_bind_ok.mp h
  cases hat : d.at? l with
  | some node => simp [hat] at hput
  | none =>
    obtain rfl : d.put l .directory = e := by
      simpa [hat, pure, Except.pure] using hput
    have hne : l ≠ [] := by
      rintro rfl
      cases hat
    have hkeeps : d.Keeps (d.put l .directory) := .put (by simp [hat])
    have hdir : (d.put l .directory).at? l = some .directory := by simp [at?_put _ hne]
    obtain ⟨hp, hleads⟩ := follow_eq_ok.mp hfollow
    -- The slashes behind the name were not followed; in the directory that is there now they are.
    obtain ⟨slashes, hnames, hslashes⟩ := names_but_slashes p
    refine ⟨l, hat, rfl, follow_eq_ok.mpr ⟨hp, ?_⟩⟩
    rw [hnames]
    exact leads_append.mpr ⟨l, hkeeps.origin p ▸ hkeeps.leads hleads, leads_trivial hdir hslashes⟩

/-- What is a directory already is not made again. -/
theorem make_dir_of_directory (h : d.lookup p = .ok .directory) :
    d.makeDir p = .error .alreadyExists := by
  obtain ⟨l, hlocate, hat⟩ := lookup_eq_ok.mp h
  obtain ⟨hp, hleads⟩ := follow_eq_ok.mp hlocate
  obtain ⟨slashes, hnames, hslashes⟩ := names_but_slashes p
  rw [hnames] at hleads
  obtain ⟨next, hfront, hback⟩ := leads_append.mp hleads
  obtain rfl := hback.of_trivial hslashes
  simp [makeDir, follow_eq_ok.mpr ⟨hp, hfront⟩, hat, bind, Except.bind]

end Disk

end Groundcover
