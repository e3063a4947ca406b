import Groundcover.Proofs.Disk
import Groundcover.Proofs.Execution
import Groundcover.Storage

/-!
What operations on storage do to a disk. Directories are made without a change to anything that is
there, and nothing but directories on the way to the one that was asked for is new.
-/

namespace Groundcover

open Execution Disk

variable {d e f : Disk} {p : Path}

namespace Storage

@[simp] theorem exec_open (p : Path) (d : Disk) :
    exec (openNode p : StateT Disk Logged _) d = (d.lookup p, d) := rfl

@[simp] theorem exec_make_dir (p : Path) (d : Disk) :
    exec (makeDir p : StateT Disk Logged _) d =
      match d.makeDir p with
      | .ok e => (.ok (), e)
      | .error why => (.error why, d) := by
  cases h : d.makeDir p <;> simp [makeDir, change, exec, h]

@[simp] theorem exec_write (p : Path) (content : List UInt8) (d : Disk) :
    exec (write p content : StateT Disk Logged _) d =
      match d.write p content with
      | .ok e => (.ok (), e)
      | .error why => (.error why, d) := by
  cases h : d.write p content <;> simp [write, change, exec, h]

@[simp] theorem exec_is_directory (p : Path) (d : Disk) :
    exec (isDirectory p : StateT Disk Logged _) d = (decide (d.lookup p = .ok .directory), d) := by
  rcases h : d.lookup p with _ | _ | _ <;> simp [isDirectory, h]

/-- Reading leaves the disk as it is; a text is read exactly from a file that holds its encoding. -/
theorem read_text_spec (p : Path) (d : Disk) :
    ∃ answer, exec (readText p : StateT Disk Logged _) d = (answer, d) ∧
      ∀ text, answer = .ok text ↔ d.lookup p = .ok (.file (Text.Utf8.encode text)) := by
  rcases hopen : d.lookup p with why | _ | content
  · exact ⟨.error why, by simp [readText, readBytes, hopen], by simp⟩
  · exact ⟨.error .isDirectory, by simp [readText, readBytes, hopen], by simp⟩
  · cases hdecode : Text.Utf8.decode? content with
    | none =>
      refine ⟨.error .notUtf8, by simp [readText, readBytes, hopen, hdecode], fun text => ?_⟩
      constructor
      · nofun
      · rintro ⟨⟩
        rw [Text.Utf8.decode_encode] at hdecode
        cases hdecode
    | some found =>
      refine ⟨.ok found, by simp [readText, readBytes, hopen, hdecode], fun text => ?_⟩
      rw [← Text.Utf8.encode_of_decode hdecode]
      constructor
      · rintro ⟨⟩
        rfl
      · intro h
        rw [Text.Utf8.encode_injective (Node.file.inj (Except.ok.inj h))]

end Storage

namespace Disk

/-- All that is new on a disk are directories, at places that the paths lead to. -/
structure Grows (paths : List Path) (d e : Disk) : Prop where
  here : e.here = d.here
  places : ∀ l, e.at? l = d.at? l ∨
    d.at? l = none ∧ e.at? l = some .directory ∧ ∃ p ∈ paths, e.locate p = .ok l

namespace Grows

variable {paths more : List Path}

theorem refl (paths : List Path) (d : Disk) : Grows paths d d := ⟨rfl, fun _ => .inl rfl⟩

theorem keeps (h : Grows paths d e) : d.Keeps e := by
  refine ⟨h.here, fun l hl => ?_⟩
  rcases h.places l with hsame | ⟨-, hdir, -⟩
  · rw [hsame, hl]
  · exact hdir

theorem mono (h : Grows paths d e) (hsub : paths ⊆ more) : Grows more d e := by
  refine ⟨h.here, fun l => (h.places l).imp_right ?_⟩
  rintro ⟨hnone, hdir, p, hp, hlocate⟩
  exact ⟨hnone, hdir, p, hsub hp, hlocate⟩

theorem first (h : Grows [p] d e) : Grows (p :: paths) d e :=
  h.mono (List.cons_subset_cons p (List.nil_subset paths))

theorem others (h : Grows paths d e) : Grows (p :: paths) d e :=
  h.mono (List.subset_cons_self p paths)

theorem trans (h : Grows paths d e) (h' : Grows paths e f) : Grows paths d f := by
  refine ⟨h'.here.trans h.here, fun l => ?_⟩
  rcases h'.places l with hsame' | ⟨hnone', hdir', p, hp, hlocate'⟩
  · rcases h.places l with hsame | ⟨hnone, hdir, p, hp, hlocate⟩
    · exact .inl (hsame'.trans hsame)
    · exact .inr ⟨hnone, hsame'.trans hdir, p, hp, h'.keeps.locate hlocate⟩
  · rcases h.places l with hsame | ⟨-, hdir, -⟩
    · exact .inr ⟨hsame ▸ hnone', hdir', p, hp, hlocate'⟩
    · rw [hnone'] at hdir
      cases hdir

theorem make_dir (h : d.makeDir p = .ok e) : Grows [p] d e := by
  obtain ⟨l, hnone, rfl, hlocate⟩ := make_dir_eq_ok h
  have hne : l ≠ [] := by
    rintro rfl
    cases hnone
  refine ⟨rfl, fun k => ?_⟩
  by_cases hk : k = l
  · subst hk
    exact .inr ⟨hnone, by simp [at?_put _ hne], p, List.mem_singleton_self p, hlocate⟩
  · exact .inl (by simp [at?_put _ hne, hk])

end Grows

theorem Keeps.lookup_directory (h : d.Keeps e) (hd : d.lookup p = .ok .directory) :
    e.lookup p = .ok .directory := by
  obtain ⟨l, hlocate, hat⟩ := lookup_eq_ok.mp hd
  exact lookup_eq_ok.mpr ⟨l, h.locate hlocate, h.directories l hat⟩

theorem lookup_of_make_dir (h : d.makeDir p = .ok e) : e.lookup p = .ok .directory := by
  obtain ⟨l, hnone, rfl, hlocate⟩ := make_dir_eq_ok h
  have hne : l ≠ [] := by
    rintro rfl
    cases hnone
  exact lookup_eq_ok.mpr ⟨l, hlocate, by simp [at?_put _ hne]⟩

end Disk

namespace Storage

/-- A directory is there after it was ensured, or nothing has changed. -/
theorem ensure_dir_spec (p : Path) (d : Disk) :
    ∃ answer e, exec (ensureDir p : StateT Disk Logged _) d = (answer, e) ∧ Grows [p] d e ∧
      (answer = .ok () → e.lookup p = .ok .directory) ∧ (answer ≠ .ok () → e = d) := by
  cases h : d.makeDir p with
  | ok e =>
    exact ⟨.ok (), e, by simp [ensureDir, h], .make_dir h, fun _ => lookup_of_make_dir h,
      fun hne => absurd rfl hne⟩
  | error why =>
    by_cases hthere : why = .alreadyExists ∧ d.lookup p = .ok .directory
    · exact ⟨.ok (), d, by simp [ensureDir, h, hthere], .refl [p] d, fun _ => hthere.2,
        fun _ => rfl⟩
    · refine ⟨.error why, d, ?_, .refl [p] d, nofun, fun _ => rfl⟩
      cases why <;> simp_all [ensureDir]

/-- What is left to make are some of the paths, and the first of them is among those or is there. -/
structure Remains (paths : List Path) (e : Disk) (missing : List Path) : Prop where
  among : missing ⊆ paths
  first : ∀ p ∈ paths.head?, canBeMade p = true → p ∈ missing ∨ e.lookup p = .ok .directory

/-- Directories are looked for from the innermost on, and made at the first place
where one can be. -/
theorem missing_dirs_spec (paths : List Path) (d : Disk) :
    ∃ answer e, exec (missingDirs paths : StateT Disk Logged _) d = (answer, e) ∧
      Grows paths d e ∧ ∀ missing, answer = .ok missing → Remains paths e missing := by
  induction paths with
  | nil =>
    refine ⟨.ok [], d, by simp [missingDirs], .refl [] d, ?_⟩
    rintro _ ⟨⟩
    exact ⟨List.nil_subset _, by simp⟩
  | cons p outer ih =>
    by_cases hmade : canBeMade p = true
    · obtain ⟨answer, e, hexec, hgrows, hthere, hsame⟩ := ensure_dir_spec p d
      rcases answer with why | _
      · obtain rfl := hsame nofun
        by_cases hfound : why = .notFound
        · -- The directory around this one is missing too, so this one is left for later.
          subst hfound
          obtain ⟨answer, f, hexec', hgrows', hmissing⟩ := ih
          rcases answer with why | inner
          · exact ⟨.error why, f, by simp [missingDirs, hmade, hexec, hexec'],
              hgrows'.others, nofun⟩
          · refine ⟨.ok (p :: inner), f, by simp [missingDirs, hmade, hexec, hexec'],
              hgrows'.others, ?_⟩
            rintro _ ⟨⟩
            exact ⟨List.cons_subset_cons p (hmissing inner rfl).among, by simp⟩
        · refine ⟨.error why, e, ?_, hgrows.first, nofun⟩
          cases why <;> simp_all [missingDirs]
      · refine ⟨.ok [], e, by simp [missingDirs, hmade, hexec], hgrows.first, ?_⟩
        rintro _ ⟨⟩
        exact ⟨List.nil_subset _, by simp [hthere]⟩
    · refine ⟨.ok [], d, by simp [missingDirs, hmade], .refl _ d, ?_⟩
      rintro _ ⟨⟩
      exact ⟨List.nil_subset _, by simp [hmade]⟩

theorem ensure_dirs_spec (paths : List Path) (d : Disk) :
    ∃ answer e, exec (ensureDirs paths : StateT Disk Logged _) d = (answer, e) ∧ Grows paths d e ∧
      (answer = .ok () → ∀ p ∈ paths, e.lookup p = .ok .directory) := by
  induction paths generalizing d with
  | nil => exact ⟨.ok (), d, by simp [ensureDirs], .refl [] d, by simp⟩
  | cons p rest ih =>
    obtain ⟨answer, e, hexec, hgrows, hthere, -⟩ := ensure_dir_spec p d
    rcases answer with why | _
    · exact ⟨.error why, e, by simp [ensureDirs, hexec], hgrows.first, nofun⟩
    · obtain ⟨answer, f, hexec', hgrows', hall⟩ := ih e
      refine ⟨answer, f, by simp [ensureDirs, hexec, hexec'], hgrows.first.trans hgrows'.others,
        fun hok => ?_⟩
      exact List.forall_mem_cons.mpr ⟨hgrows'.keeps.lookup_directory (hthere rfl), hall hok⟩

/-- Making a directory with all that it lies in adds directories on its way and changes nothing
else. If that succeeds, the directory is there, unless the path was empty. -/
theorem make_dirs_spec (p : Path) (d : Disk) :
    ∃ answer e, exec (makeDirs p : StateT Disk Logged _) d = (answer, e) ∧ Grows p.ancestors d e ∧
      (answer = .ok () → p.bytes ≠ [] → e.IsDirectory p) := by
  obtain ⟨answer, e, hexec, hgrows, hmissing⟩ := missing_dirs_spec p.ancestors d
  rcases answer with why | missing
  · exact ⟨.error why, e, by simp [makeDirs, hexec], hgrows, nofun⟩
  · obtain ⟨hsub, hfirst⟩ := hmissing missing rfl
    obtain ⟨answer, f, hexec', hgrows', hall⟩ := ensure_dirs_spec missing.reverse e
    refine ⟨answer, f, by simp [makeDirs, hexec, hexec'], ?_, fun hok hne => ?_⟩
    · exact hgrows.trans (hgrows'.mono fun q hq => hsub (List.mem_reverse.mp hq))
    · by_cases hmade : canBeMade p = true
      · rcases hfirst p rfl hmade with hmem | hlookup
        · exact is_directory_of_lookup (hall hok p (List.mem_reverse.mpr hmem))
        · exact is_directory_of_lookup (hgrows'.keeps.lookup_directory hlookup)
      · have hparent : p.parent? = none := by
          simpa [canBeMade, hne] using hmade
        obtain ⟨habs, hsteps⟩ := Path.root_of_no_parent hparent hne
        exact ⟨[], by rw [origin, habs, hsteps]; exact leads_nil.mpr rfl, rfl⟩

end Storage

end Groundcover
